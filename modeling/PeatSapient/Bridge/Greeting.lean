import PeatSapient.Bridge.Delivery

/-! What a registering connection is sent first. It is entered in one step and its
RegistrationAck is pushed in a later one; in between a call can push to it. -/

namespace PeatSapient.Bridge

open HashMap Mpsc Execution

variable {F : Type}

def isRegistrationAck (msg : SapientMessage F) : Bool :=
  match msg.content with
  | some (.registrationAck _) => true
  | _ => false

def AckFirst (conn : Connection F) : Prop :=
  ∀ out, conn.write.pushed.head? = some out → isRegistrationAck out.msg = true

/-- The step pushes a call's message to the connection before its RegistrationAck. -/
def overtakesAck (conn : ConnId) (state : Bridge F) : Action F → Bool
  | .advance call =>
      match state.calls call with
      | .delivering _ target _ =>
          target == conn &&
            match (state.conns conn).stage with
            | .acking _ => true
            | _ => false
      | _ => false
  | _ => false

structure Untouched (conn : Connection F) : Prop where
  empty : conn.write.pushed = []
  alive : conn.write.closed = false
  idle : conn.writing = none
  room : 0 < conn.write.capacity

def beyondAck : Stage F → Bool
  | .registering _ | .acking _ => false
  | _ => true

/-- A connection on its way to its RegistrationAck, and after it. -/
inductive Greeting (state : Bridge F) (conn : ConnId) : Prop where
  | unregistered (none_ : (state.conns conn).registered = none)
      (untouched : Untouched (state.conns conn))
  | registering (msg : SapientMessage F) (stage : (state.conns conn).stage = .registering msg)
      (absent : ∀ nodeId, state.connections.lookup nodeId ≠ some conn)
      (untouched : Untouched (state.conns conn))
  | acking (msg : SapientMessage F) (stage : (state.conns conn).stage = .acking msg)
      (untouched : Untouched (state.conns conn))
  | greeted (out : Outgoing F) (owned : (state.conns conn).registered.isSome = true)
      (beyond : beyondAck (state.conns conn).stage = true)
      (first : (state.conns conn).write.pushed.head? = some out)
      (answer : isRegistrationAck out.msg = true)

def Spoiled (state : Bridge F) (conn : ConnId) : Prop :=
  ∃ out, (state.conns conn).write.pushed.head? = some out ∧ isRegistrationAck out.msg = false

def callMessage : ApiCall F → Option (SapientMessage F)
  | .inserting task => some task.msg
  | .queueing task => some task.msg
  | .reaping task _ => some task.msg
  | .connecting task => some task.msg
  | .alerting _ msg => some msg
  | .delivering _ _ out => some out.msg
  | _ => none

def CallsOther (state : Bridge F) : Prop :=
  ∀ id msg, callMessage (state.calls id) = some msg → isRegistrationAck msg = false

theorem head_append {left right : List (Outgoing F)} {out : Outgoing F}
    (first : left.head? = some out) : (left ++ right).head? = some out := by
  rw [List.head?_append, first]
  rfl

theorem head_send {before after : Channel (Outgoing F)} {message out : Outgoing F}
    (sent : before.send message = some after) (first : before.pushed.head? = some out) :
    after.pushed.head? = some out := by
  rcases Channel.send_cases sent with ⟨_, _, pushed, _⟩ | ⟨_, _, _, pushed, _⟩
  · rw [pushed]
    exact first
  · rw [pushed]
    exact head_append first

theorem Untouched.send {conn : Connection F} {after : Channel (Outgoing F)}
    {message : Outgoing F} (untouched : Untouched conn)
    (sent : conn.write.send message = some after) : after.pushed.head? = some message := by
  rcases Channel.send_cases sent with ⟨gone, _⟩ | ⟨_, _, _, pushed, _⟩
  · rw [untouched.alive] at gone
    cases gone
  · rw [pushed, untouched.empty]
    rfl

theorem Greeting.congr {before after : Bridge F} {conn : ConnId}
    (greeting : Greeting before conn) (conns : after.conns conn = before.conns conn)
    (connections : ∀ nodeId, after.connections.lookup nodeId = some conn →
      before.connections.lookup nodeId = some conn) : Greeting after conn := by
  cases greeting with
  | unregistered none_ untouched => exact .unregistered (by rwa [conns]) (by rwa [conns])
  | registering msg stage absent untouched =>
      exact .registering msg (by rwa [conns])
        (fun nodeId found => absent nodeId (connections nodeId found)) (by rwa [conns])
  | acking msg stage untouched => exact .acking msg (by rwa [conns]) (by rwa [conns])
  | greeted out owned beyond first answer =>
      exact .greeted out (by rwa [conns]) (by rwa [conns]) (by rwa [conns]) answer

theorem Greeting.setConn {state after : Bridge F} {conn : ConnId}
    (greeting : Greeting state conn) (id : ConnId) (changed : Connection F)
    (conns : after.conns = Function.update state.conns id changed)
    (connections : ∀ nodeId, after.connections.lookup nodeId = some conn →
      state.connections.lookup nodeId = some conn)
    (beyond : beyondAck (state.conns id).stage = true)
    (waiting : (state.conns id).registered = none → Untouched (state.conns id) →
      Untouched changed)
    (same : changed.registered = (state.conns id).registered)
    (still : beyondAck changed.stage = true)
    (kept : ∀ out, (state.conns id).write.pushed.head? = some out →
      changed.write.pushed.head? = some out) : Greeting after conn := by
  by_cases here : conn = id
  · subst here
    have shape : after.conns conn = changed := by rw [conns, Function.update_self]
    cases greeting with
    | unregistered none_ untouched =>
        exact .unregistered (by rw [shape, same, none_])
          (by rw [shape]; exact waiting none_ untouched)
    | registering msg stage absent untouched =>
        rw [stage] at beyond
        cases beyond
    | acking msg stage untouched =>
        rw [stage] at beyond
        cases beyond
    | greeted out owned _ first answer =>
        exact .greeted out (by rwa [shape, same]) (by rwa [shape])
          (by rw [shape]; exact kept out first) answer
  · exact greeting.congr (by rw [conns, Function.update_of_ne here]) connections

theorem Greeting.setStage {state after : Bridge F} {conn : ConnId}
    (greeting : Greeting state conn) (id : ConnId) (stage : Stage F)
    (conns : after.conns =
      Function.update state.conns id { state.conns id with stage := stage })
    (connections : ∀ nodeId, after.connections.lookup nodeId = some conn →
      state.connections.lookup nodeId = some conn)
    (beyond : beyondAck (state.conns id).stage = true) (still : beyondAck stage = true) :
    Greeting after conn :=
  greeting.setConn id { state.conns id with stage := stage } conns connections beyond
    (fun _ untouched => ⟨untouched.empty, untouched.alive, untouched.idle, untouched.room⟩)
    rfl still fun _ first => first

theorem Spoiled.setConn {state after : Bridge F} {conn : ConnId} (spoiled : Spoiled state conn)
    (id : ConnId) (changed : Connection F)
    (conns : after.conns = Function.update state.conns id changed)
    (kept : ∀ out, (state.conns id).write.pushed.head? = some out →
      changed.write.pushed.head? = some out) : Spoiled after conn := by
  obtain ⟨out, first, other⟩ := spoiled
  refine ⟨out, ?_, other⟩
  by_cases same : conn = id
  · subst same
    rw [conns, Function.update_self]
    exact kept out first
  · rwa [conns, Function.update_of_ne same]

theorem CallsOther.setCall {state after : Bridge F} (held : CallsOther state) (id : CallId)
    (call : ApiCall F) (calls : after.calls = Function.update state.calls id call)
    (other : ∀ msg, callMessage call = some msg → isRegistrationAck msg = false) :
    CallsOther after := by
  intro another msg at_
  by_cases same : another = id
  · subst same
    rw [calls, Function.update_self] at at_
    exact other msg at_
  · rw [calls, Function.update_of_ne same] at at_
    exact held another msg at_

theorem startSendTask_other (nodeId : String) (msg : SapientMessage F)
    (commandId : Option String) (sent : SapientMessage F)
    (at_ : callMessage (startSendTask nodeId msg commandId) = some sent) :
    isRegistrationAck sent = false := by
  unfold startSendTask extractTaskId at at_
  split at at_
  · cases at_
  · next taskId extracted =>
      cases at_
      split at extracted
      · next task content => simp [isRegistrationAck, content]
      · cases extracted

/-- A call delivers only to connections that have been entered. -/
theorem greeting_deliver {state : Bridge F} {conn : ConnId} (greeting : Greeting state conn)
    (locked : DeliveriesLocked state) (registered : Registered state) (id : CallId)
    (target : String) (delivered : ConnId) (out : Outgoing F) (write : Channel (Outgoing F))
    (here : state.calls id = .delivering target delivered out)
    (sent : (state.conns delivered).write.send out = some write)
    (inTurn : overtakesAck conn state (.advance id) = false) :
    Greeting (({ state with connectionsLock := none }.setWrite delivered write).setCall id
      (.returned (.ok ()))) conn := by
  have entered := (locked id target delivered out here).2
  by_cases same : delivered = conn
  · subst same
    have owner := registered.entered target delivered entered
    cases greeting with
    | unregistered none_ untouched =>
        rw [owner] at none_
        cases none_
    | registering msg stage absent untouched => exact absurd entered (absent target)
    | acking msg stage untouched => simp [overtakesAck, here, stage] at inTurn
    | greeted first owned beyond at_ answer =>
        refine Greeting.greeted first ?_ ?_ ?_ answer
        · simpa [setCall, setWrite, setConn] using owned
        · simpa [setCall, setWrite, setConn] using beyond
        · simpa [setCall, setWrite, setConn] using head_send sent at_
  · refine greeting.congr ?_ fun _ found => found
    simp [setCall, setWrite, setConn, Ne.symm same]

theorem greeting_register {state : Bridge F} {conn : ConnId} (greeting : Greeting state conn)
    (registered : Registered state) (id : ConnId) (msg : SapientMessage F)
    (here : (state.conns id).stage = .registering msg) :
    Greeting ({ state with
      connections := state.connections.insert msg.sender id }.setStage id (.acking msg)) conn := by
  by_cases same : conn = id
  · subst same
    have owner := registered.handling conn msg (by rw [here]; rfl)
    cases greeting with
    | unregistered none_ untouched =>
        rw [owner] at none_
        cases none_
    | acking other stage untouched =>
        rw [here] at stage
        cases stage
    | registering other stage absent untouched =>
        apply Greeting.acking msg <;> simp only [setStage, setConn, Function.update_self]
        exact ⟨untouched.empty, untouched.alive, untouched.idle, untouched.room⟩
    | greeted first owned beyond at_ answer =>
        rw [here] at beyond
        cases beyond
  · apply greeting.congr
    · simp [setStage, setConn, same]
    · exact fun nodeId found => lookup_of_insert found same

theorem greeting_acknowledge {state : Bridge F} {conn : ConnId} (greeting : Greeting state conn)
    (registered : Registered state) (id : ConnId) (msg : SapientMessage F) (ack : Outgoing F)
    (answer : isRegistrationAck ack.msg = true) (write : Channel (Outgoing F))
    (here : (state.conns id).stage = .acking msg)
    (sent : (state.conns id).write.send ack = some write) :
    Greeting (state.setConn id
      { state.conns id with write := write, stage := .snapshotting msg }) conn := by
  by_cases same : conn = id
  · subst same
    have owner := registered.handling conn msg (by rw [here]; rfl)
    cases greeting with
    | unregistered none_ untouched =>
        rw [owner] at none_
        cases none_
    | registering other stage absent untouched =>
        rw [here] at stage
        cases stage
    | acking other stage untouched =>
        -- The channel is open and empty, so the ack is the first in it.
        refine Greeting.greeted ack ?_ ?_ ?_ answer
        · simp [setConn, owner]
        · simp [setConn, beyondAck]
        · simpa [setConn] using untouched.send sent
    | greeted first owned beyond at_ answer =>
        rw [here] at beyond
        cases beyond
  · exact greeting.congr (by simp [setConn, same]) fun _ found => found

theorem greeting_receive {state : Bridge F} {conn : ConnId} (greeting : Greeting state conn)
    (registered : Registered state) (id : ConnId) (msg : SapientMessage F)
    (here : (state.conns id).stage = .reading) :
    Greeting (state.setConn id (state.arrive id msg)) conn := by
  by_cases same : conn = id
  · subst same
    have shape : (state.setConn conn (state.arrive conn msg)).conns conn =
        state.arrive conn msg := by simp [setConn]
    cases greeting with
    | registering other stage absent untouched =>
        rw [here] at stage
        cases stage
    | acking other stage untouched =>
        rw [here] at stage
        cases stage
    | greeted first owned beyond at_ answer =>
        have owner : (state.conns conn).registered.isNone = false := by simpa using owned
        refine Greeting.greeted first ?_ ?_ ?_ answer <;> rw [shape] <;>
          simp only [arrive, owner, Bool.and_false, Bool.false_eq_true, if_false]
        · exact owned
        · rfl
        · exact at_
    | unregistered none_ untouched =>
        have kept : Untouched (state.arrive conn msg) := by
          unfold arrive
          split <;> exact ⟨untouched.empty, untouched.alive, untouched.idle, untouched.room⟩
        cases first : isRegistration msg with
        | true =>
            -- Only registered connections are entered.
            have absent : ∀ nodeId, state.connections.lookup nodeId ≠ some conn := by
              intro nodeId found
              rw [registered.entered nodeId conn found] at none_
              cases none_
            refine Greeting.registering msg ?_ absent ?_ <;> rw [shape]
            · simp [arrive, first, none_]
            · exact kept
        | false =>
            refine Greeting.unregistered ?_ ?_ <;> rw [shape]
            · simp [arrive, first, none_]
            · exact kept
  · exact greeting.congr (by simp [setConn, same]) fun _ found => found

/-- The writer has nothing to take before the ack. -/
theorem greeting_takes {state : Bridge F} {conn : ConnId} (greeting : Greeting state conn)
    (id : ConnId) (out : Outgoing F) (write : Channel (Outgoing F))
    (taken : (state.conns id).write.recv = some (out, write)) :
    Greeting (state.setConn id
      { state.conns id with write := write, writing := some out }) conn := by
  obtain ⟨_, _, buffered, pushed, _⟩ := Channel.recv_cases taken
  by_cases same : conn = id
  · subst same
    have nonempty : (state.conns conn).write.pushed ≠ [] := by
      simp [Channel.pushed, buffered]
    cases greeting with
    | unregistered none_ untouched => exact absurd untouched.empty nonempty
    | registering msg stage absent untouched => exact absurd untouched.empty nonempty
    | acking msg stage untouched => exact absurd untouched.empty nonempty
    | greeted first owned beyond at_ answer =>
        refine Greeting.greeted first ?_ ?_ ?_ answer
        · simpa [setConn] using owned
        · simpa [setConn] using beyond
        · simpa [setConn, pushed] using at_
  · exact greeting.congr (by simp [setConn, same]) fun _ found => found

theorem greeting_wrote {state : Bridge F} {conn : ConnId} (greeting : Greeting state conn)
    (id : ConnId) (out : Outgoing F) (write : Channel (Outgoing F))
    (busy : (state.conns id).writing = some out)
    (pushed : write.pushed = (state.conns id).write.pushed) :
    Greeting (state.setConn id
      { state.conns id with write := write, writing := none }) conn := by
  by_cases same : conn = id
  · subst same
    cases greeting with
    | unregistered none_ untouched =>
        rw [untouched.idle] at busy
        cases busy
    | registering msg stage absent untouched =>
        rw [untouched.idle] at busy
        cases busy
    | acking msg stage untouched =>
        rw [untouched.idle] at busy
        cases busy
    | greeted first owned beyond at_ answer =>
        refine Greeting.greeted first ?_ ?_ ?_ answer
        · simpa [setConn] using owned
        · simpa [setConn] using beyond
        · simpa [setConn, pushed] using at_
  · exact greeting.congr (by simp [setConn, same]) fun _ found => found

variable [FloatOps F]

theorem callsOther_step (config : BridgeConfig F) {state after : Bridge F} {action : Action F}
    (held : CallsOther state) (moved : Moves config state action after) : CallsOther after := by
  cases moved with
  | startTask id nodeId msg commandId here =>
      exact held.setCall id _ rfl (startSendTask_other nodeId msg commandId)
  | startAlert id nodeId alertId status reasons here =>
      apply held.setCall id _ rfl
      intro msg at_
      cases at_
      rfl
  | absent id task here free missing
  | alertAbsent id nodeId msg here free missing
  | deliver id nodeId conn out write here sent =>
      apply held.setCall id _ rfl
      intro sent at_
      cases at_
  | insert id task command here given
  | skipInsert id task here missing
  | queue id task here free clean
  | queueReap id task here free stale
  | callReap id task removed here
  | connect id task conn here free found
  | alertConnect id nodeId msg conn here free found =>
      apply held.setCall id _ rfl
      intro sent at_
      cases at_
      exact held id _ (by rw [here]; rfl)
  | _ => exact held

theorem greeting_step (config : BridgeConfig F) {state after : Bridge F} {action : Action F}
    {conn : ConnId} (locked : DeliveriesLocked state) (registered : Registered state)
    (greeting : Greeting state conn) (inTurn : overtakesAck conn state action = false)
    (moved : Moves config state action after) : Greeting after conn := by
  cases moved with
  | tick | startTask | startAlert | insert | skipInsert | queue | queueReap | callReap
  | absent | connect | alertAbsent | alertConnect | consume | dropReceiver =>
      exact greeting.congr rfl fun _ found => found
  | deliver id target delivered out write here sent =>
      exact greeting_deliver greeting locked registered id target delivered out write here sent
        inTurn
  | register id msg here free =>
      exact greeting_register greeting registered id msg here
  | acknowledgeRegistration id msg write here sent =>
      exact greeting_acknowledge greeting registered id msg _ rfl write here sent
  | receive id msg here =>
      exact greeting_receive greeting registered id msg here
  | writerTakes id out write taken =>
      exact greeting_takes greeting id out write taken
  | writerWrote id out busy | writerFailed id out busy =>
      exact greeting_wrote greeting id out _ busy rfl
  | disconnect id target here free =>
      exact greeting.setStage id (.unregistering target) rfl (fun _ found => lookup_of_erase found)
        (by rw [here]; rfl) rfl
  | replay id msg out rest write here sent =>
      have owner := registered.handling id msg (by rw [here]; rfl)
      refine greeting.setConn id _ rfl (fun _ found => found) ?_ ?_ ?_ ?_ ?_
      · rw [here]
        rfl
      · intro none_
        rw [owner] at none_
        cases none_
      · rfl
      · rfl
      · exact fun _ first => head_send sent first
  | snapshot id msg here free clean
  | drain id msg here free stale
  | connReap id msg expired here
  | replayed id msg here
  | locate id msg here
  | route id msg position update limiter here routed
  | reject id msg position failure limiter here routed
  | upsert id update target capability here writes
  | ackTask id sender acked given status reasons here free
  | pass id update here silent other
  | correlate id sender acked status reasons cleared here
  | emit id update updates here sent
  | unregister id target here
  | announce id target updates here sent =>
      exact greeting.setStage id _ rfl (fun _ found => found) (by rw [here]; rfl) rfl
  | hangUp id here =>
      exact greeting.setStage id (state.hungUp id) rfl (fun _ found => found) (by rw [here]; rfl)
        (by unfold hungUp; split <;> rfl)

/-- A call that overtakes the ack comes first. -/
theorem overtaken_spoiled (config : BridgeConfig F) {state after : Bridge F}
    {action : Action F} {conn : ConnId} (registered : Registered state)
    (others : CallsOther state) (greeting : Greeting state conn)
    (early : overtakesAck conn state action = true)
    (moved : Moves config state action after) : Spoiled after conn := by
  cases moved with
  | deliver id target delivered out write here sent =>
      simp only [overtakesAck, here, Bool.and_eq_true, beq_iff_eq] at early
      obtain ⟨rfl, early⟩ := early
      have at_ : ∃ msg, (state.conns delivered).stage = .acking msg := by
        split at early
        · next msg stage => exact ⟨msg, stage⟩
        · cases early
      obtain ⟨msg, stage⟩ := at_
      cases greeting with
      | unregistered none_ untouched =>
          rw [registered.handling delivered msg (by rw [stage]; rfl)] at none_
          cases none_
      | registering other before absent untouched =>
          rw [stage] at before
          cases before
      | acking other before untouched =>
          refine ⟨out, ?_, others id out.msg (by rw [here]; rfl)⟩
          simpa [setCall, setWrite, setConn] using untouched.send sent
      | greeted first owned beyond at_ answer =>
          rw [stage] at beyond
          cases beyond
  | absent id task here free missing
  | alertAbsent id nodeId msg here free missing
  | insert id task command here given
  | skipInsert id task here missing
  | queue id task here free clean
  | queueReap id task here free stale
  | callReap id task removed here
  | connect id task conn here free found
  | alertConnect id nodeId msg conn here free found =>
      simp [overtakesAck, here] at early
  | _ => cases early

theorem spoiled_step (config : BridgeConfig F) {state after : Bridge F} {action : Action F}
    {conn : ConnId} (spoiled : Spoiled state conn) (moved : Moves config state action after) :
    Spoiled after conn := by
  cases moved with
  | tick | startTask | startAlert | insert | skipInsert | queue | queueReap | callReap
  | absent | connect | alertAbsent | alertConnect | consume | dropReceiver =>
      exact spoiled
  | deliver id target delivered out write here sent =>
      exact spoiled.setConn delivered { state.conns delivered with write := write } rfl
        fun _ first => head_send sent first
  | acknowledgeRegistration id msg write here sent
  | replay id msg out rest write here sent =>
      exact spoiled.setConn id _ rfl fun _ first => head_send sent first
  | writerTakes id out write taken =>
      obtain ⟨_, _, _, pushed, _⟩ := Channel.recv_cases taken
      exact spoiled.setConn id _ rfl fun _ first => by rw [pushed]; exact first
  | receive id msg here =>
      apply spoiled.setConn id (state.arrive id msg) rfl
      intro out first
      unfold arrive
      split <;> exact first
  | register id msg here free
  | snapshot id msg here free clean
  | drain id msg here free stale
  | connReap id msg expired here
  | replayed id msg here
  | locate id msg here
  | route id msg position update limiter here routed
  | reject id msg position failure limiter here routed
  | upsert id update target capability here writes
  | ackTask id sender acked given status reasons here free
  | pass id update here silent other
  | correlate id sender acked status reasons cleared here
  | emit id update updates here sent
  | disconnect id target here free
  | unregister id target here
  | announce id target updates here sent
  | hangUp id here
  | writerWrote id out busy
  | writerFailed id out busy =>
      exact spoiled.setConn id _ rfl fun _ first => first

def Decided (conn : ConnId) (trace : Trace (Bridge F) (Action F)) (state : Bridge F) : Prop :=
  (Meets (fun _ state action => overtakesAck conn state action = false) trace ∧
      Greeting state conn) ∨
    (¬ Meets (fun _ state action => overtakesAck conn state action = false) trace ∧
      Spoiled state conn)

theorem decided_run (config : BridgeConfig F) {trace : Trace (Bridge F) (Action F)}
    {state : Bridge F} (run : Run (machine config) trace state) (conn : ConnId) :
    CallsOther state ∧ Decided conn trace state := by
  refine run.invariant (fun trace state => CallsOther state ∧ Decided conn trace state) ?_ ?_
  · constructor
    · intro id msg at_
      cases at_
    · exact Or.inl ⟨trivial, .unregistered rfl ⟨rfl, rfl, rfl, Nat.succ_pos 63⟩⟩
  · rintro trace before action after earlier ⟨others, decided⟩ taken
    have moved := moves_of_step config taken
    obtain ⟨locked, registered, _⟩ := delivery_invariant config ⟨trace, earlier⟩
    refine ⟨callsOther_step config others moved, ?_⟩
    rcases decided with ⟨met, greeting⟩ | ⟨failed, spoiled⟩
    · cases early : overtakesAck conn before action with
      | false =>
          exact Or.inl ⟨⟨early, met⟩, greeting_step config locked registered greeting early moved⟩
      | true =>
          refine Or.inr ⟨fun meets => ?_,
            overtaken_spoiled config registered others greeting early moved⟩
          rw [meets.1] at early
          cases early
    · exact Or.inr ⟨fun meets => failed meets.2, spoiled_step config spoiled moved⟩

/-- In every run, a connection is sent its RegistrationAck first if and only if no call
has pushed to it between its entry and its ack. -/
theorem ackFirst_iff (config : BridgeConfig F) {trace : Trace (Bridge F) (Action F)}
    {state : Bridge F} (run : Run (machine config) trace state) (conn : ConnId) :
    AckFirst (state.conns conn) ↔
      Meets (fun _ state action => overtakesAck conn state action = false) trace := by
  obtain ⟨_, ⟨met, greeting⟩ | ⟨failed, out, first, other⟩⟩ := decided_run config run conn
  · refine ⟨fun _ => met, fun _ => ?_⟩
    intro out at_
    cases greeting with
    | unregistered none_ untouched
    | registering msg stage absent untouched
    | acking msg stage untouched =>
        rw [untouched.empty] at at_
        cases at_
    | greeted first owned beyond before answer =>
        rw [before] at at_
        cases at_
        exact answer
  · refine ⟨fun ackFirst => ?_, fun met => absurd met failed⟩
    rw [ackFirst out first] at other
    cases other

theorem ackFirst_iff_registerThenTask :
    ∃ state : Bridge Float, (state.conns 0).write.pushed.length = 2 ∧
      AckFirst (state.conns 0) :=
  ⟨_, rfl, (ackFirst_iff plainConfig (replay_reachable registerThenTask rfl) 0).mpr (by decide)⟩

def taskBeforeAck : List (Action Float) :=
  .receive 0 (registrationOf "n") :: .proceed 0 ::
    .sendTask 0 "n" (taskMessage "t") none :: List.replicate 4 (.advance 0) ++ [.proceed 0]

theorem task_before_ack :
    ¬ ∀ (trace : Trace (Bridge Float) (Action Float)) (state : Bridge Float) (conn : ConnId),
      Run (machine plainConfig) trace state → AckFirst (state.conns conn) := by
  intro ackFirst
  have wrong := ackFirst _ _ 0 (replay_reachable taskBeforeAck rfl) ⟨some 0, taskMessage "t"⟩ rfl
  cases wrong

end PeatSapient.Bridge
