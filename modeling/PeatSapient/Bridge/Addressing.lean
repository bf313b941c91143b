import PeatSapient.Bridge.Delivery

/-! Whom a message is for. A task waits in the queue of a node, is replayed from there or pushed
by its call, and an ack is made for the node it goes to; what comes into the write channel of
a connection was meant for the node that registered on it. -/

namespace PeatSapient.Bridge

open HashMap Mpsc Execution

variable {F : Type}

def MeantFor (config : BridgeConfig F) (trace : Trace (Bridge F) (Action F)) (nodeId : String)
    (out : Outgoing F) : Prop :=
  match out.origin with
  | some call =>
      (∃ before commandId, (before, .sendTask call nodeId out.msg commandId) ∈ trace) ∧
        ∃ taskId, extractTaskId out.msg = .ok taskId
  | none =>
      (∃ systemTime, out.msg = makeRegistrationAck systemTime config.nodeId nodeId) ∨
        ∃ before call alertId status reasons,
          (before, .sendAlertAck call nodeId alertId status reasons) ∈ trace ∧
            out.msg = makeAlertAck before.systemTime config.nodeId nodeId alertId status reasons

def intends (id : CallId) : ApiCall F → Option (String × Outgoing F)
  | .inserting task | .queueing task | .reaping task _ | .connecting task =>
      some (task.nodeId, ⟨some id, task.msg⟩)
  | .alerting nodeId msg => some (nodeId, ⟨none, msg⟩)
  | .delivering nodeId _ out => some (nodeId, out)
  | _ => none

def outbound (conn : Connection F) (out : Outgoing F) : Prop :=
  conn.write.Offered out ∨ conn.writing = some out

def replaying : Stage F → List (Outgoing F)
  | .replaying _ pending => pending
  | _ => []

structure ConnDirected (config : BridgeConfig F) (trace : Trace (Bridge F) (Action F))
    (conn : Connection F) : Prop where
  outbound : ∀ out, outbound conn out → ∃ nodeId, conn.registered = some nodeId ∧
    MeantFor config trace nodeId out
  replays : ∀ out ∈ replaying conn.stage, ∃ nodeId, conn.registered = some nodeId ∧
    MeantFor config trace nodeId out

structure Directed (config : BridgeConfig F) (trace : Trace (Bridge F) (Action F))
    (state : Bridge F) : Prop where
  calls : ∀ id nodeId out, intends id (state.calls id) = some (nodeId, out) →
    MeantFor config trace nodeId out
  queue : ∀ nodeId, ∀ task ∈ state.taskQueue.queueFor nodeId,
    MeantFor config trace nodeId task.msg
  conns : ∀ conn, ConnDirected config trace (state.conns conn)

theorem MeantFor.later {config : BridgeConfig F} {trace : Trace (Bridge F) (Action F)}
    {nodeId : String} {out : Outgoing F} (meant : MeantFor config trace nodeId out)
    (entry : Bridge F × Action F) : MeantFor config (entry :: trace) nodeId out := by
  unfold MeantFor at meant ⊢
  split at meant
  · obtain ⟨⟨before, commandId, asked⟩, valid⟩ := meant
    exact ⟨⟨before, commandId, List.mem_cons_of_mem _ asked⟩, valid⟩
  · rcases meant with own | ⟨before, call, alertId, status, reasons, asked, made⟩
    · exact Or.inl own
    · exact Or.inr ⟨before, call, alertId, status, reasons, List.mem_cons_of_mem _ asked, made⟩

theorem ConnDirected.later {config : BridgeConfig F} {trace : Trace (Bridge F) (Action F)}
    {conn : Connection F} (held : ConnDirected config trace conn)
    (entry : Bridge F × Action F) : ConnDirected config (entry :: trace) conn where
  outbound := by
    intro out there
    obtain ⟨nodeId, named, meant⟩ := held.outbound out there
    exact ⟨nodeId, named, meant.later entry⟩
  replays := by
    intro out there
    obtain ⟨nodeId, named, meant⟩ := held.replays out there
    exact ⟨nodeId, named, meant.later entry⟩

theorem Directed.later {config : BridgeConfig F} {trace : Trace (Bridge F) (Action F)}
    {state : Bridge F} (held : Directed config trace state) (entry : Bridge F × Action F) :
    Directed config (entry :: trace) state where
  calls id nodeId out intended := (held.calls id nodeId out intended).later entry
  queue nodeId task member := (held.queue nodeId task member).later entry
  conns conn := (held.conns conn).later entry

theorem Directed.congr {config : BridgeConfig F} {trace : Trace (Bridge F) (Action F)}
    {before after : Bridge F} (held : Directed config trace before)
    (calls : after.calls = before.calls) (conns : after.conns = before.conns)
    (queue : ∀ nodeId, ∀ task ∈ after.taskQueue.queueFor nodeId,
      MeantFor config trace nodeId task.msg) : Directed config trace after where
  calls := by
    rw [calls]
    exact held.calls
  queue := queue
  conns := by
    rw [conns]
    exact held.conns

theorem Directed.setCall {config : BridgeConfig F} {trace : Trace (Bridge F) (Action F)}
    {state : Bridge F} (held : Directed config trace state) (id : CallId) (call : ApiCall F)
    (meant : ∀ nodeId out, intends id call = some (nodeId, out) →
      MeantFor config trace nodeId out) : Directed config trace (state.setCall id call) where
  calls := by
    intro other nodeId out intended
    by_cases same : other = id
    · subst same
      exact meant nodeId out (by simpa [Bridge.setCall] using intended)
    · exact held.calls other nodeId out (by simpa [Bridge.setCall, same] using intended)
  queue := held.queue
  conns := held.conns

theorem Directed.setConn {config : BridgeConfig F} {trace : Trace (Bridge F) (Action F)}
    {state : Bridge F} (held : Directed config trace state) (id : ConnId)
    (changed : Connection F) (directed : ConnDirected config trace changed) :
    Directed config trace (state.setConn id changed) where
  calls := held.calls
  queue := held.queue
  conns := by
    intro conn
    by_cases same : conn = id
    · subst same
      simpa [Bridge.setConn] using directed
    · simpa [Bridge.setConn, same] using held.conns conn

theorem ConnDirected.stage {config : BridgeConfig F} {trace : Trace (Bridge F) (Action F)}
    {conn : Connection F} (held : ConnDirected config trace conn) (stage : Stage F)
    (fewer : ∀ out ∈ replaying stage, out ∈ replaying conn.stage) :
    ConnDirected config trace { conn with stage := stage } where
  outbound := held.outbound
  replays out member := held.replays out (fewer out member)

theorem ConnDirected.push {config : BridgeConfig F} {trace : Trace (Bridge F) (Action F)}
    {conn : Connection F} (held : ConnDirected config trace conn) {stage : Stage F}
    {write : Channel (Outgoing F)} {out : Outgoing F} {nodeId : String}
    (sent : conn.write.send out = some write) (named : conn.registered = some nodeId)
    (meant : MeantFor config trace nodeId out)
    (fewer : ∀ out ∈ replaying stage, out ∈ replaying conn.stage) :
    ConnDirected config trace { conn with write := write, stage := stage } where
  outbound := by
    rintro other (offered | writing)
    · rcases (Channel.offered_send sent other).mp offered with before | same
      · exact held.outbound other (Or.inl before)
      · rw [same]
        exact ⟨nodeId, named, meant⟩
    · exact held.outbound other (Or.inr writing)
  replays other member := held.replays other (fewer other member)

theorem Directed.drained {config : BridgeConfig F} {trace : Trace (Bridge F) (Action F)}
    {state : Bridge F} (held : Directed config trace state) (nodeId : String) :
    ∀ task ∈ (state.taskQueue.drainExpired state.clock).2.queueFor nodeId,
      MeantFor config trace nodeId task.msg :=
  fun task member => held.queue nodeId task (mem_drain state.clock member)

theorem ConnDirected.snapshot {config : BridgeConfig F} {trace : Trace (Bridge F) (Action F)}
    {conn : Connection F} (held : ConnDirected config trace conn) (msg : SapientMessage F)
    (named : conn.registered = some msg.sender) (queue : TaskQueue (Outgoing F))
    (meant : ∀ task ∈ queue.queueFor msg.sender, MeantFor config trace msg.sender task.msg) :
    ConnDirected config trace
      { conn with stage := .replaying msg (queue.pendingFor msg.sender) } where
  outbound := held.outbound
  replays := by
    intro out member
    obtain ⟨task, queued, rfl⟩ := List.mem_map.mp member
    exact ⟨msg.sender, named, meant task queued⟩

theorem Directed.enqueued {config : BridgeConfig F} {trace : Trace (Bridge F) (Action F)}
    {state : Bridge F} (held : Directed config trace state) {id : CallId} {task : TaskCall F}
    (here : state.calls id = .queueing task) (nodeId : String) :
    ∀ entry ∈ (state.queued id task).queueFor nodeId,
      MeantFor config trace nodeId entry.msg := by
  intro entry member
  rcases mem_queued member with older | ⟨target, own⟩
  · exact held.queue nodeId entry older
  · rw [own, ← target]
    exact held.calls id task.nodeId _ (by rw [here]; rfl)

/-- What was directed to a connection that had not registered is nothing. -/
theorem ConnDirected.arrive {config : BridgeConfig F} {trace : Trace (Bridge F) (Action F)}
    {state : Bridge F} {id : ConnId} (held : ConnDirected config trace (state.conns id))
    (msg : SapientMessage F) : ConnDirected config trace (state.arrive id msg) := by
  unfold Bridge.arrive
  split
  · next first =>
      have unnamed : (state.conns id).registered = none := by
        simp only [Bool.and_eq_true, Option.isNone_iff_eq_none] at first
        exact first.2
      constructor
      · intro out there
        obtain ⟨nodeId, named, _⟩ := held.outbound out there
        rw [unnamed] at named
        cases named
      · intro out there
        cases there
  · exact held.stage _ (by simp [replaying])

variable [FloatOps F]

theorem directed_call (config : BridgeConfig F) {trace : Trace (Bridge F) (Action F)}
    {state after : Bridge F} {id : CallId} (locked : DeliveriesLocked state)
    (registered : Registered state) (held : Directed config ((state, .advance id) :: trace) state)
    (moved : Moves config state (.advance id) after) :
    Directed config ((state, .advance id) :: trace) after := by
  cases moved with
  | skipInsert id task here =>
      apply held.setCall
      intro nodeId out intended
      exact held.calls id nodeId out (by rw [here]; exact intended)
  | insert id task command here given
  | callReap id task removed here =>
      apply Directed.setCall
      · exact held.congr rfl rfl held.queue
      · intro nodeId out intended
        exact held.calls id nodeId out (by rw [here]; exact intended)
  | queue id task here
  | queueReap id task here =>
      apply Directed.setCall
      · exact held.congr rfl rfl (held.enqueued here)
      · intro nodeId out intended
        exact held.calls id nodeId out (by rw [here]; exact intended)
  | absent id task here
  | alertAbsent id nodeId msg here =>
      apply held.setCall
      simp [intends]
  | connect id task conn here
  | alertConnect id nodeId msg conn here =>
      apply Directed.setCall
      · exact held.congr rfl rfl held.queue
      · intro target out intended
        exact held.calls id target out (by rw [here]; exact intended)
  | deliver id nodeId conn out write here sent =>
      have named := registered.entered nodeId conn (locked id nodeId conn out here).2
      have meant := held.calls id nodeId out (by rw [here]; rfl)
      have pushed := held.setConn conn { state.conns conn with write := write }
        ((held.conns conn).push sent named meant fun _ member => member)
      apply Directed.setCall
      · exact pushed.congr rfl rfl held.queue
      · simp [intends]

theorem directed_conn (config : BridgeConfig F) {trace : Trace (Bridge F) (Action F)}
    {state after : Bridge F} {id : ConnId} (registered : Registered state)
    (held : Directed config ((state, .proceed id) :: trace) state)
    (moved : Moves config state (.proceed id) after) :
    Directed config ((state, .proceed id) :: trace) after := by
  cases moved with
  | acknowledgeRegistration id msg write here sent =>
      have named := registered.handling id msg (by simp [here, registrationAt])
      apply held.setConn
      apply (held.conns id).push sent named
      · exact Or.inl ⟨state.systemTime, rfl⟩
      · simp [replaying]
  | replay id msg out rest write here sent =>
      obtain ⟨nodeId, named, meant⟩ := (held.conns id).replays out (by simp [here, replaying])
      apply held.setConn
      apply (held.conns id).push sent named meant
      intro other member
      rw [here]
      exact List.mem_cons_of_mem _ member
  | snapshot id msg here =>
      have named := registered.handling id msg (by simp [here, registrationAt])
      apply Directed.setConn
      · exact held.congr rfl rfl held.drained
      · exact (held.conns id).snapshot msg named _ (held.drained msg.sender)
  | connReap id msg expired here =>
      have named := registered.handling id msg (by simp [here, registrationAt])
      apply Directed.setConn
      · exact held.congr rfl rfl held.queue
      · exact (held.conns id).snapshot msg named _ (held.queue msg.sender)
  | drain id msg here =>
      apply Directed.setConn
      · exact held.congr rfl rfl held.drained
      · exact (held.conns id).stage _ (by simp [replaying])
  | ackTask id nodeId taskId command status reasons here =>
      have kept : ∀ other, ∀ task ∈ (state.taskQueue.ack nodeId taskId).queueFor other,
          MeantFor config ((state, .proceed id) :: trace) other task.msg := by
        intro other task member
        rw [TaskQueue.queueFor_ack] at member
        split at member
        · next same =>
            rw [same]
            exact held.queue nodeId task (List.mem_of_mem_filter member)
        · exact held.queue other task member
      apply Directed.setConn
      · exact held.congr rfl rfl kept
      · exact (held.conns id).stage _ (by simp [replaying])
  | register id
  | replayed id
  | locate id
  | route id
  | reject id
  | upsert id
  | pass id
  | correlate id
  | emit id
  | disconnect id
  | unregister id
  | announce id =>
      apply Directed.setConn
      · exact held.congr rfl rfl held.queue
      · exact (held.conns id).stage _ (by simp [replaying])

theorem directed_step (config : BridgeConfig F) {trace : Trace (Bridge F) (Action F)}
    {state after : Bridge F} {action : Action F} (locked : DeliveriesLocked state)
    (registered : Registered state) (held : Directed config ((state, action) :: trace) state)
    (moved : Moves config state action after) :
    Directed config ((state, action) :: trace) after := by
  have whole := moved
  cases moved with
  | insert | skipInsert | queue | queueReap | callReap | absent | connect | alertAbsent
  | alertConnect | deliver =>
      exact directed_call config locked registered held whole
  | register | acknowledgeRegistration | snapshot | drain | connReap | replayed | replay
  | locate | route | reject | upsert | ackTask | pass | correlate | emit | disconnect
  | unregister | announce =>
      exact directed_conn config registered held whole
  | startTask id nodeId msg commandId here =>
      apply held.setCall
      intro target out intended
      unfold startSendTask at intended
      cases found : extractTaskId msg with
      | error failure => simp [found, intends] at intended
      | ok taskId =>
          simp only [found, intends, Option.some.injEq, Prod.mk.injEq] at intended
          obtain ⟨rfl, rfl⟩ := intended
          exact ⟨⟨state, commandId, List.mem_cons_self⟩, taskId, found⟩
  | startAlert id nodeId alertId status reasons here =>
      apply held.setCall
      intro target out intended
      simp only [intends, Option.some.injEq, Prod.mk.injEq] at intended
      obtain ⟨rfl, rfl⟩ := intended
      exact Or.inr ⟨state, id, alertId, status, reasons, List.mem_cons_self, rfl⟩
  | receive id msg here =>
      exact held.setConn id _ ((held.conns id).arrive msg)
  | hangUp id here =>
      apply held.setConn
      apply (held.conns id).stage
      unfold hungUp
      split <;> simp [replaying]
  | writerTakes id out write taken =>
      apply held.setConn
      constructor
      · rintro other (offered | writing)
        · exact (held.conns id).outbound other
            (Or.inl ((Channel.offered_recv taken other).mp offered))
        · cases writing
          obtain ⟨_, _, buffered, _⟩ := Channel.recv_cases taken
          have offered : (state.conns id).write.Offered out :=
            Or.inl (List.mem_append_right _ (by rw [buffered]; exact List.mem_cons_self))
          exact (held.conns id).outbound out (Or.inl offered)
      · exact (held.conns id).replays
  | writerWrote id out busy
  | writerFailed id out busy =>
      apply held.setConn
      constructor
      · rintro other (offered | writing)
        · exact (held.conns id).outbound other (Or.inl offered)
        · cases writing
      · exact (held.conns id).replays
  | tick | consume | dropReceiver =>
      exact held.congr rfl rfl held.queue

/-- In every run, whatever comes into the write channel of a connection, or is refused by it,
was meant for the node that the connection is registered for: the ack of its Registration, the
ack of an alert that the application sent to that node, or the very message of a `send_task`
for that node. Before the Registration there is nothing. -/
theorem addressed (config : BridgeConfig F) {trace : Trace (Bridge F) (Action F)}
    {state : Bridge F} (run : Run (machine config) trace state) (conn : ConnId)
    (out : Outgoing F) (there : outbound (state.conns conn) out) :
    ∃ nodeId, (state.conns conn).registered = some nodeId ∧
      MeantFor config trace nodeId out := by
  have directed : Directed config trace state := by
    apply run.invariant fun trace state => Directed config trace state
    · refine ⟨fun id nodeId out intended => ?_, fun nodeId task member => ?_, fun conn => ?_⟩
      · simp [machine, new, intends] at intended
      · simp [machine, new] at member
      · constructor
        · rintro out (offered | writing)
          · simp [machine, new, Channel.Offered, Channel.pushed, channel] at offered
          · cases writing
        · intro out member
          cases member
    · intro trace before action after earlier held taken
      obtain ⟨locked, registered, _⟩ := delivery_invariant config ⟨trace, earlier⟩
      exact directed_step config locked registered (held.later (before, action))
        (moves_of_step config taken)
  exact (directed.conns conn).outbound out there

/-- The task is in the channel, after the ack. -/
theorem addressed_registerThenTask :
    ∃ trace, ∃ state : Bridge Float, ∃ out, outbound (state.conns 0) out ∧
      ∃ nodeId, (state.conns 0).registered = some nodeId ∧
        MeantFor plainConfig trace nodeId out := by
  refine ⟨_, _, ⟨some 0, taskMessage "t"⟩, ?_, addressed plainConfig
    (replay_reachable registerThenTask rfl) 0 _ ?_⟩
  · exact Or.inl (Or.inl (List.mem_cons_of_mem _ List.mem_cons_self))
  · exact Or.inl (Or.inl (List.mem_cons_of_mem _ List.mem_cons_self))

end PeatSapient.Bridge
