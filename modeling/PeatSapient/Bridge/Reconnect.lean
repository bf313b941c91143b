import PeatSapient.Bridge.Registration

/-! A node that reconnects while its old connection is still being cleaned up. The
clean-up is keyed by the node id alone, so a late one takes the newer connection's
entries away; the condition below names the steps that do so. -/

namespace PeatSapient.Bridge

open HashMap Mpsc Execution

variable {F : Type}

def registers (nodeId : String) : Bridge F × Action F → Option ConnId
  | (state, .proceed conn) =>
      match (state.conns conn).stage with
      | .registering msg => if msg.sender = nodeId then some conn else none
      | _ => none
  | _ => none

def lastRegistrant (nodeId : String) (trace : Trace (Bridge F) (Action F)) :
    Option ConnId :=
  trace.findSome? (registers nodeId)

def isOpen : Stage F → Bool
  | .disconnecting _ | .unregistering _ | .announcing _ | .closed => false
  | _ => true

def aboutToAnnounce : Stage F → Bool
  | .emitting update => isRegistered update
  | _ => false

def recorded (state : Bridge F) (conn : ConnId) : Bool :=
  announced state conn || aboutToAnnounce (state.conns conn).stage

def disconnects (nodeId : String) : SapientUpdate F → Bool
  | .nodeDisconnected other => other == nodeId
  | _ => false

def undisturbed (nodeId : String) (conn : ConnId) : List (Emitted F) → Bool
  | [] => true
  | emitted :: later =>
      if announces conn emitted then later.all fun other => !disconnects nodeId other.update
      else undisturbed nodeId conn later

/-- The open connection, other than this one, that has registered the node last. -/
def newer (earlier : Trace (Bridge F) (Action F)) (state : Bridge F) (conn : ConnId)
    (nodeId : String) : Option ConnId :=
  (lastRegistrant nodeId earlier).filter fun other =>
    other != conn && isOpen (state.conns other).stage

/-- A clean-up step takes nothing away from a newer connection: neither the sender
entered for it, nor the registry entry it has written, nor is the node announced
as disconnected after the newer connection's Registered update. -/
def sparesNewer (earlier : Trace (Bridge F) (Action F)) (state : Bridge F) :
    Action F → Bool
  | .proceed conn =>
      match (state.conns conn).stage with
      | .disconnecting nodeId => (newer earlier state conn nodeId).isNone
      | .unregistering nodeId => !(newer earlier state conn nodeId).any (recorded state)
      | .announcing nodeId => !(newer earlier state conn nodeId).any (announced state)
      | _ => true
  | _ => true

structure Live (state : Bridge F) (nodeId : String) (conn : ConnId) : Prop where
  owner : (state.conns conn).registered = some nodeId
  connected : state.connections.lookup nodeId = some conn
  listed : recorded state conn = true → (state.registry.lookup nodeId).isSome = true
  quiet : undisturbed nodeId conn state.updates.attempts = true

theorem undisturbed_of_silent {conn : ConnId} (nodeId : String)
    {attempts : List (Emitted F)} (silent : attempts.any (announces conn) = false) :
    undisturbed nodeId conn attempts = true := by
  induction attempts with
  | nil => rfl
  | cons emitted later ih =>
      simp only [List.any_cons, Bool.or_eq_false_iff] at silent
      simp [undisturbed, silent.1, ih silent.2]

theorem undisturbed_append {nodeId : String} {conn : ConnId} {attempts : List (Emitted F)}
    {emitted : Emitted F} (held : undisturbed nodeId conn attempts = true)
    (harmless : disconnects nodeId emitted.update = true →
      attempts.any (announces conn) = false) :
    undisturbed nodeId conn (attempts ++ [emitted]) = true := by
  induction attempts with
  | nil => simp [undisturbed]
  | cons first later ih =>
      simp only [undisturbed, List.cons_append] at held ⊢
      split at held
      · next own =>
          rw [if_pos own, List.all_append, held]
          cases hit : disconnects nodeId emitted.update with
          | false => simp [hit]
          | true =>
              have silent := harmless hit
              simp [own] at silent
      · next other =>
          rw [if_neg other]
          refine ih held fun hit => ?_
          have silent := harmless hit
          simp only [List.any_cons, Bool.or_eq_false_iff] at silent
          exact silent.2

theorem Live.congr {before after : Bridge F} {nodeId : String} {conn : ConnId}
    (live : Live before nodeId conn) (conns : after.conns = before.conns)
    (connections : after.connections = before.connections)
    (registry : after.registry = before.registry)
    (attempts : after.updates.attempts = before.updates.attempts) :
    Live after nodeId conn where
  owner := by
    rw [conns]
    exact live.owner
  connected := by
    rw [connections]
    exact live.connected
  listed := by
    unfold recorded announced at *
    rw [conns, attempts, registry]
    exact live.listed
  quiet := by
    rw [attempts]
    exact live.quiet

theorem Live.setConn {state : Bridge F} {nodeId : String} {conn : ConnId}
    (live : Live state nodeId conn) (id : ConnId) (changed : Connection F)
    (same : conn = id → changed.registered = (state.conns id).registered)
    (coming : aboutToAnnounce changed.stage = true →
      aboutToAnnounce (state.conns id).stage = true) :
    Live (state.setConn id changed) nodeId conn where
  owner := by
    by_cases here : conn = id
    · subst here
      simpa [Bridge.setConn, same rfl] using live.owner
    · simpa [Bridge.setConn, here] using live.owner
  connected := live.connected
  listed := by
    intro written
    apply live.listed
    unfold recorded at *
    by_cases here : conn = id
    · subst here
      simp only [Bridge.setConn, Function.update_self, Bool.or_eq_true] at written ⊢
      exact written.imp (fun spoken => spoken) coming
    · simpa [Bridge.setConn, here, announced] using written
  quiet := live.quiet

theorem Live.entries {before after : Bridge F} {nodeId : String} {conn : ConnId}
    (live : Live before nodeId conn) (conns : after.conns = before.conns)
    (attempts : after.updates.attempts = before.updates.attempts)
    (connections : after.connections.lookup nodeId = before.connections.lookup nodeId)
    (registry : recorded before conn = true → (before.registry.lookup nodeId).isSome = true →
      (after.registry.lookup nodeId).isSome = true) : Live after nodeId conn where
  owner := by
    rw [conns]
    exact live.owner
  connected := connections.trans live.connected
  listed := by
    intro written
    have older : recorded before conn = true := by
      simpa only [recorded, announced, conns, attempts] using written
    exact registry older (live.listed older)
  quiet := by
    rw [attempts]
    exact live.quiet

theorem Live.emit {state : Bridge F} {nodeId : String} {conn : ConnId}
    (live : Live state nodeId conn) (id : ConnId) (stage : Stage F)
    (updates : Channel (Emitted F)) (emitted : Emitted F)
    (sent : state.updates.send emitted = some updates)
    (coming : aboutToAnnounce stage = false)
    (written : announces conn emitted = true → recorded state conn = true)
    (harmless : disconnects nodeId emitted.update = true → announced state conn = false) :
    Live (({ state with updates := updates } : Bridge F).setStage id stage) nodeId conn := by
  have moved := live.setConn id { state.conns id with stage := stage } (fun _ => rfl)
    (by simp [coming])
  refine ⟨moved.owner, moved.connected, fun now => live.listed ?_, ?_⟩
  · have announcement :
        announced (({ state with updates := updates } : Bridge F).setStage id stage) conn =
          (announced state conn || announces conn emitted) := announced_send sent conn
    rw [recorded, announcement] at now
    simp only [Bool.or_eq_true] at now
    rcases now with (before | own) | next_
    · simp [recorded, before]
    · exact written own
    · by_cases same : conn = id
      · subst same
        simp [setStage, Bridge.setConn, coming] at next_
      · have before : aboutToAnnounce (state.conns conn).stage = true := by
          simpa [setStage, Bridge.setConn, same] using next_
        simp [recorded, before]
  · change undisturbed nodeId conn updates.attempts = true
    rw [Channel.attempts_send sent]
    exact undisturbed_append live.quiet harmless

theorem isSome_upsert {registry : NodeRegistry F} {now : Nat} {nodeId : String}
    {capability : Option (CapabilityAdvertisement F)} {position : Option (TrackPosition F)}
    {other : String} (listed : other = nodeId ∨ (registry.lookup other).isSome = true) :
    ((registry.upsert now nodeId capability position).lookup other).isSome = true := by
  rw [NodeRegistry.lookup_upsert]
  split
  · rfl
  · next different => exact listed.resolve_left different

theorem upsertOf_registered {update : SapientUpdate F} {nodeId : String}
    {capability : Option (CapabilityAdvertisement F)} {sender : String}
    {advertisement : CapabilityAdvertisement F}
    (writes : upsertOf update = some (nodeId, capability))
    (shape : update = .registered sender advertisement) : nodeId = sender := by
  subst shape
  simp only [upsertOf, Option.some.injEq, Prod.mk.injEq] at writes
  exact writes.1.symm

/-- A connection writes an update to the registry: where it is the registrant's own
first Registration, the node is listed from now on. -/
theorem Live.upsert {state : Bridge F} {nodeId : String} {conn : ConnId}
    (live : Live state nodeId conn) (phased : Phased state conn) (id : ConnId)
    (update : SapientUpdate F) (target : String)
    (capability : Option (CapabilityAdvertisement F))
    (here : (state.conns id).stage = .recording update)
    (writes : upsertOf update = some (target, capability)) :
    Live (({ state with
      registry := state.registry.upsert state.clock target capability none } :
        Bridge F).setStage id (.emitting update)) nodeId conn where
  owner := by
    by_cases same : conn = id
    · subst same
      simpa [setStage, Bridge.setConn] using live.owner
    · simpa [setStage, Bridge.setConn, same] using live.owner
  connected := live.connected
  quiet := live.quiet
  listed := by
    intro now
    apply isSome_upsert
    by_cases same : conn = id
    · subst same
      cases phased with
      | unregistered none_ silent stage =>
          rw [live.owner] at none_
          cases none_
      | registering sender some_ silent stage =>
          rw [here] at stage
          obtain ⟨advertisement, shape⟩ := stage
          rw [live.owner] at some_
          left
          rw [upsertOf_registered writes shape]
          exact Option.some.inj some_
      | settled sender some_ spoken stage =>
          exact Or.inr (live.listed (by simp [recorded, spoken]))
    · right
      apply live.listed
      simpa [recorded, announced, setStage, Bridge.setConn, same] using now

theorem isDisconnected_of_disconnects {update : SapientUpdate F} {nodeId : String}
    (hit : disconnects nodeId update = true) : isDisconnected update = true := by
  cases update <;> simp_all [disconnects, isDisconnected]

theorem Phased.emits {state : Bridge F} {conn : ConnId} (phased : Phased state conn)
    {update : SapientUpdate F} (here : (state.conns conn).stage = .emitting update) :
    isDisconnected update = false := by
  cases phased with
  | unregistered none_ silent stage =>
      rw [here] at stage
      exact stage.2
  | registering nodeId some_ silent stage =>
      rw [here] at stage
      obtain ⟨advertisement, rfl⟩ := stage
      rfl
  | settled nodeId some_ spoken stage =>
      rw [here] at stage
      exact stage

theorem newer_eq {earlier : Trace (Bridge F) (Action F)} {state : Bridge F}
    {nodeId : String} {conn other : ConnId} (last : lastRegistrant nodeId earlier = some conn)
    (different : conn ≠ other) (opened : isOpen (state.conns conn).stage = true) :
    newer earlier state other nodeId = some conn := by
  simp [newer, last, different, opened]

theorem registers_some {state : Bridge F} {action : Action F} {nodeId : String}
    {conn : ConnId} (entered : registers nodeId (state, action) = some conn) :
    ∃ msg, action = .proceed conn ∧ (state.conns conn).stage = .registering msg ∧
      msg.sender = nodeId := by
  cases action with
  | proceed other =>
      simp only [registers] at entered
      split at entered
      · next msg here =>
          split at entered
          · next own =>
              cases entered
              exact ⟨msg, rfl, here, own⟩
          · cases entered
      · cases entered
  | _ => cases entered

variable [FloatOps F]

/-- A connection that has left its read loop never comes back. -/
theorem open_before (config : BridgeConfig F) {state after : Bridge F} {action : Action F}
    (moved : Moves config state action after) (conn : ConnId)
    (opened : isOpen (after.conns conn).stage = true) :
    isOpen (state.conns conn).stage = true := by
  have frame : ∀ (id : ConnId) (changed : Connection F),
      isOpen (Function.update state.conns id changed conn).stage = true →
      (isOpen changed.stage = true → isOpen (state.conns id).stage = true) →
      isOpen (state.conns conn).stage = true := by
    intro id changed now before
    by_cases same : conn = id
    · subst same
      exact before (by simpa using now)
    · simpa [same] using now
  cases moved with
  | register id msg here free
  | acknowledgeRegistration id msg write here sent
  | snapshot id msg here free clean
  | drain id msg here free stale
  | connReap id msg expired here
  | replayed id msg here
  | replay id msg out rest write here sent
  | locate id msg here
  | route id msg position update limiter here routed
  | reject id msg position failure limiter here routed
  | upsert id update target capability here writes
  | ackTask id sender acked given status reasons here free
  | pass id update here silent other
  | correlate id sender acked status reasons cleared here
  | emit id update updates here sent
  | receive id msg here
  | hangUp id here =>
      exact frame id _ opened fun _ => by simp [here, isOpen]
  | disconnect id target here free
  | unregister id target here
  | announce id target updates here sent =>
      exact frame id _ opened (by simp [isOpen])
  | deliver id target delivered out write here sent =>
      exact frame delivered _ opened fun stays => stays
  | writerTakes id out write taken | writerWrote id | writerFailed id =>
      exact frame id _ opened fun stays => stays
  | _ => exact opened

omit [FloatOps F] in
theorem elsewhere_of_open {state : Bridge F} {conn id : ConnId}
    (opened : isOpen (state.conns conn).stage = true)
    (closing : isOpen (state.conns id).stage = false) : conn ≠ id := by
  rintro rfl
  rw [closing] at opened
  cases opened

theorem live_conn (config : BridgeConfig F) {earlier : Trace (Bridge F) (Action F)}
    {state after : Bridge F} {id : ConnId} {nodeId : String} {conn : ConnId}
    (phased : ∀ other, Phased state other)
    (last : lastRegistrant nodeId earlier = some conn)
    (live : Live state nodeId conn) (spares : sparesNewer earlier state (.proceed id) = true)
    (older : registers nodeId (state, .proceed id) = none)
    (openedBefore : isOpen (state.conns conn).stage = true)
    (moved : Moves config state (.proceed id) after) : Live after nodeId conn := by
  -- Only the clean-up steps of another connection can take something away, and those
  -- are the ones the condition rules out.
  cases moved with
  | register id msg here free =>
      have other : msg.sender ≠ nodeId := by
        intro same
        simp [registers, here, same] at older
      have moved := live.setConn id { state.conns id with stage := .acking msg }
        (fun _ => rfl) (by simp [aboutToAnnounce])
      refine moved.entries rfl rfl ?_ fun _ listed => listed
      simp [setStage, setConn, Ne.symm other]
  | disconnect id target here free =>
      have moved := live.setConn id { state.conns id with stage := .unregistering target }
        (fun _ => rfl) (by simp [aboutToAnnounce])
      refine moved.entries rfl rfl ?_ fun _ listed => listed
      -- A connection in its clean-up is not open.
      have different := elsewhere_of_open openedBefore (by rw [here]; rfl)
      have other : nodeId ≠ target := by
        intro same
        subst same
        simp [sparesNewer, here, newer_eq last different openedBefore] at spares
      simp [setStage, setConn, other]
  | unregister id target here =>
      have moved := live.setConn id { state.conns id with stage := .announcing target }
        (fun _ => rfl) (by simp [aboutToAnnounce])
      refine moved.entries rfl rfl rfl fun written listed => ?_
      have different := elsewhere_of_open openedBefore (by rw [here]; rfl)
      have before : recorded state conn = true := by
        simpa [recorded, announced, setConn, different] using written
      have other : nodeId ≠ target := by
        intro same
        subst same
        simp [sparesNewer, here, newer_eq last different openedBefore, before] at spares
      simpa [setStage, setConn, NodeRegistry.lookup_remove, other] using listed
  | announce id target updates here sent =>
      refine live.emit id .closed updates _ sent rfl (by simp [announces, isRegistered])
        fun hit => ?_
      have different := elsewhere_of_open openedBefore (by rw [here]; rfl)
      have same : target = nodeId := by simpa [disconnects] using hit
      subst same
      simpa [sparesNewer, here, newer_eq last different openedBefore] using spares
  | emit id update updates here sent =>
      refine live.emit id .reading updates _ sent rfl (fun own => ?_) fun hit => ?_
      · simp only [announces, Bool.and_eq_true, beq_iff_eq] at own
        obtain ⟨rfl, registered⟩ := own
        simp [recorded, aboutToAnnounce, here, registered]
      -- The read loop itself never emits a disconnect.
      · have connected := (phased id).emits here
        rw [isDisconnected_of_disconnects hit] at connected
        cases connected
  | upsert id update target capability here writes =>
      exact live.upsert (phased conn) id update target capability here writes
  | acknowledgeRegistration id msg write here sent
  | snapshot id msg here free clean
  | drain id msg here free stale
  | connReap id msg expired here
  | replayed id msg here
  | replay id msg out rest write here sent
  | locate id msg here
  | route id msg position update limiter here routed
  | reject id msg position failure limiter here routed
  | ackTask id sender acked given status reasons here free
  | correlate id sender acked status reasons cleared here =>
      refine Live.congr (live.setConn id _ ?_ ?_) rfl rfl rfl rfl
      · exact fun _ => rfl
      · simp [aboutToAnnounce, isRegistered]
  | pass id update here silent other =>
      refine live.setConn id _ (fun _ => rfl) ?_
      cases update <;> simp_all [aboutToAnnounce, isRegistered, upsertOf]

theorem live_step (config : BridgeConfig F) {earlier : Trace (Bridge F) (Action F)}
    {state after : Bridge F} {action : Action F} {nodeId : String} {conn : ConnId}
    (phased : ∀ other, Phased state other)
    (last : lastRegistrant nodeId earlier = some conn)
    (live : Live state nodeId conn) (spares : sparesNewer earlier state action = true)
    (older : registers nodeId (state, action) = none)
    (opened : isOpen (after.conns conn).stage = true)
    (moved : Moves config state action after) : Live after nodeId conn := by
  have openedBefore := open_before config moved conn opened
  have whole := moved
  cases moved with
  | register | acknowledgeRegistration | snapshot | drain | connReap | replayed | replay
  | locate | route | reject | upsert | ackTask | pass | correlate | emit | disconnect
  | unregister | announce =>
      exact live_conn config phased last live spares older openedBefore whole
  | receive id msg here =>
      refine live.setConn id _ (fun own => ?_) ?_
      · subst own
        simp [arrive, live.owner]
      · unfold arrive
        split <;> simp [aboutToAnnounce]
  | hangUp id here =>
      refine live.setConn id _ (fun _ => rfl) ?_
      unfold hungUp
      split <;> simp [aboutToAnnounce]
  | deliver id target delivered out write here sent =>
      exact Live.congr (live.setConn delivered { state.conns delivered with write := write }
        (fun _ => rfl) fun stays => stays) rfl rfl rfl rfl
  | writerTakes id out write taken
  | writerWrote id
  | writerFailed id =>
      exact live.setConn id _ (fun _ => rfl) fun stays => stays
  | consume emitted updates taken =>
      exact live.congr rfl rfl rfl (Channel.attempts_recv taken)
  | _ =>
      exact live.congr rfl rfl rfl rfl

theorem live_registers (config : BridgeConfig F) {state after : Bridge F}
    {action : Action F} {nodeId : String} {conn : ConnId} (phased : Phased state conn)
    (entered : registers nodeId (state, action) = some conn)
    (moved : Moves config state action after) : Live after nodeId conn := by
  obtain ⟨msg, rfl, stage, own⟩ := registers_some entered
  cases moved with
  | register _ given here free =>
      have same : given = msg := by simpa [here] using stage
      subst same
      cases phased with
      | unregistered none_ silent stays => simp [stage, Unregistered] at stays
      -- Only a connection on its first Registration enters its sender.
      | settled other some_ spoken stays => simp [stage, Settled] at stays
      | registering other some_ silent stays =>
          rw [stage] at stays
          have sender : other = nodeId := stays.2.symm.trans own
          subst sender
          refine ⟨?_, ?_, fun written => ?_, undisturbed_of_silent other silent⟩
          · simpa [setStage, setConn] using some_
          · simp [setStage, setConn, own]
          · have quiet : announced state conn = true := by
              simpa [recorded, announced, setStage, setConn, aboutToAnnounce] using written
            rw [silent] at quiet
            cases quiet
  | _ => simp_all

theorem live_run (config : BridgeConfig F) (nodeId : String)
    {trace : Trace (Bridge F) (Action F)} {state : Bridge F}
    (run : Run (machine config) trace state)
    (spared : Meets (fun earlier state action => sparesNewer earlier state action = true)
      trace) :
    ∀ conn, lastRegistrant nodeId trace = some conn →
      isOpen (state.conns conn).stage = true → Live state nodeId conn := by
  -- Induction on the run. The last registrant is either set by this step, or was live
  -- before it.
  refine run.invariant_of_meets _ (fun trace state => ∀ conn,
    lastRegistrant nodeId trace = some conn → isOpen (state.conns conn).stage = true →
      Live state nodeId conn) ?_ ?_ spared
  · intro conn last
    cases last
  · intro trace before action after earlier held spares taken conn last opened
    have moved := moves_of_step config taken
    have phases := phased config ⟨trace, earlier⟩
    unfold lastRegistrant at last
    rw [List.findSome?_cons] at last
    split at last
    · next entrant entered =>
        cases last
        exact live_registers config (phases conn) entered moved
    · next older =>
        exact live_step config phases last
          (held conn last (open_before config moved conn opened)) spares older opened moved

/-- A reconnect survives the clean-up of the old connection: in every run whose clean-up
steps spare newer connections, the last registrant of a node, as long as it is open,
has its sender entered, its node listed and no disconnect announced after its
Registered update. -/
theorem reconnect_survives (config : BridgeConfig F) (nodeId : String) (conn : ConnId)
    {trace : Trace (Bridge F) (Action F)} {state : Bridge F}
    (run : Run (machine config) trace state)
    (spared : Meets (fun earlier state action => sparesNewer earlier state action = true)
      trace)
    (last : lastRegistrant nodeId trace = some conn)
    (opened : isOpen (state.conns conn).stage = true)
    (finished : announced state conn = true) :
    state.connections.lookup nodeId = some conn ∧
      (state.registry.lookup nodeId).isSome = true ∧
      undisturbed nodeId conn state.updates.attempts = true := by
  have live := live_run config nodeId run spared conn last opened
  exact ⟨live.connected, live.listed (by simp [recorded, finished]), live.quiet⟩

def registering (conn : ConnId) (nodeId : String) : List (Action Float) :=
  .receive conn (registrationOf nodeId) :: List.replicate 8 (.proceed conn)

def cleaningUp (conn : ConnId) : List (Action Float) :=
  .hangUp conn :: List.replicate 3 (.proceed conn)

theorem reconnect_survives_cleanFirst :
    ∃ state : Bridge Float, state.connections.lookup "n" = some 1 ∧
      (state.registry.lookup "n").isSome = true ∧
      undisturbed "n" 1 state.updates.attempts = true :=
  ⟨_, reconnect_survives plainConfig "n" 1
    (replay_reachable (registering 0 "n" ++ cleaningUp 0 ++ registering 1 "n") rfl)
    (by decide) (by decide) (by decide) (by decide)⟩

/-- The old connection is noticed to be gone only after the new one has registered:
its clean-up takes the sender, the registry entry and the announcement with it. -/
theorem reconnect_lost :
    ¬ ∀ (nodeId : String) (conn : ConnId) (trace : Trace (Bridge Float) (Action Float))
      (state : Bridge Float), Run (machine plainConfig) trace state →
      lastRegistrant nodeId trace = some conn →
      isOpen (state.conns conn).stage = true → announced state conn = true →
      state.connections.lookup nodeId = some conn ∧
        (state.registry.lookup nodeId).isSome = true ∧
        undisturbed nodeId conn state.updates.attempts = true := by
  intro kept
  have entered := (kept "n" 1 _ _
    (replay_reachable (registering 0 "n" ++ registering 1 "n" ++ cleaningUp 0) rfl)
    (by decide) (by decide) (by decide)).1
  revert entered
  decide

end PeatSapient.Bridge
