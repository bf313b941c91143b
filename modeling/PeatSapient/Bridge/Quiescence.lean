import PeatSapient.Bridge.Contention
import PeatSapient.Lib.Quiescence

/-! Coming to rest. While no new call is made and no message comes off a socket, the tasks of
the bridge only carry on with what has begun. They wait for locks and for room in channels,
and none of them waits forever as long as the writer tasks write and the application takes
its updates: in whatever order they go on, they all finish. -/

namespace PeatSapient.Bridge

open HashMap Mpsc Execution

variable {F : Type}

/-- The steps that carry on: of calls, connections and writer tasks, and the application
taking an update. -/
def serves : Action F → Prop
  | .advance _ | .proceed _ | .writerTakes _ | .writerWrote _ _ | .consume => True
  | _ => False

/-- Every call has returned, every connection waits for its socket or is closed, and all that
can still be delivered has been. -/
structure AtEase (state : Bridge F) : Prop where
  calls : ∀ id, state.calls id = .idle ∨ ∃ result, state.calls id = .returned result
  conns : ∀ id, (state.conns id).stage = .reading ∨ (state.conns id).stage = .closed
  writers : ∀ id, (state.conns id).writing = none
  written : ∀ id, (state.conns id).write.closed = false → (state.conns id).write.buffer = []
  consumed : state.updates.closed = false → state.updates.buffer = []
  connectionsFree : state.connectionsLock = none
  queueFree : state.queueLock = none

def callDelivers (call : ApiCall F) : Prop :=
  ∃ nodeId conn out, call = .delivering nodeId conn out

def ConnectionsLocked (state : Bridge F) : Prop :=
  ∀ id, state.connectionsLock = some id → callDelivers (state.calls id)

structure Roomy (state : Bridge F) : Prop where
  write : ∀ id, 0 < (state.conns id).write.capacity
  updates : 0 < state.updates.capacity

structure Unused (conn : Connection F) : Prop where
  stage : conn.stage = .reading
  registered : conn.registered = none
  buffer : conn.write.buffer = []
  writing : conn.writing = none

structure Within (bound : Nat) (state : Bridge F) : Prop where
  calls : ∀ id : CallId, bound ≤ id → state.calls id = .idle
  conns : ∀ id : ConnId, bound ≤ id → Unused (state.conns id)

/-! What is left to do. -/

def callToil : ApiCall F → Nat
  | .idle | .returned _ => 0
  | .delivering _ _ _ => 1
  | .connecting _ | .alerting _ _ => 2
  | .reaping _ _ => 3
  | .queueing _ => 4
  | .inserting _ => 5

/-- The steps a connection can still take, with those of the messages it is going to push: a
pushed message is taken and written. Which messages these are is known only after the
snapshot, and until then the tasks now pending stand for them. -/
def stageLoad (queue : TaskQueue (Outgoing F)) : Stage F → Nat
  | .reading | .closed => 0
  | .emitting _ | .announcing _ => 3
  | .correlating _ _ _ _ _ | .unregistering _ => 4
  | .recording _ | .disconnecting _ => 5
  | .routing _ _ => 6
  | .locating _ => 7
  | .replaying _ pending => 8 + 3 * pending.length
  | .reaping msg _ => 9 + 3 * (queue.queueFor msg.sender).length
  | .snapshotting msg => 10 + 3 * (queue.queueFor msg.sender).length
  | .acking msg => 13 + 3 * (queue.queueFor msg.sender).length
  | .registering msg => 14 + 3 * (queue.queueFor msg.sender).length

def writingLoad : Option (Outgoing F) → Nat
  | none => 0
  | some _ => 1

def connLoad (queue : TaskQueue (Outgoing F)) (conn : Connection F) : Nat :=
  stageLoad queue conn.stage + 2 * conn.write.buffer.length + writingLoad conn.writing

def toil (bound : Nat) (state : Bridge F) : Nat :=
  total bound fun id => callToil (state.calls id)

def backlog (bound : Nat) (state : Bridge F) : Nat :=
  total bound (fun id => connLoad state.taskQueue (state.conns id)) +
    state.updates.buffer.length

/-- A call that goes on may leave more to the connections, so its steps count first. -/
def work (bound : Nat) (state : Bridge F) : Nat × Nat := (toil bound state, backlog bound state)

def lessWork : Nat × Nat → Nat × Nat → Prop := Prod.Lex (· < ·) (· < ·)

theorem lessWork_founded : WellFounded lessWork :=
  WellFounded.prod_lex Nat.lt_wfRel.wf Nat.lt_wfRel.wf

def Shorter (after before : TaskQueue (Outgoing F)) : Prop :=
  ∀ nodeId, (after.queueFor nodeId).length ≤ (before.queueFor nodeId).length

theorem shorter_rfl (queue : TaskQueue (Outgoing F)) : Shorter queue queue :=
  fun _ => Nat.le_refl _

theorem shorter_drain (queue : TaskQueue (Outgoing F)) (now : Nat) :
    Shorter (queue.drainExpired now).2 queue := by
  intro nodeId
  rw [TaskQueue.queueFor_drain]
  exact List.length_filter_le _ _

theorem shorter_ack (queue : TaskQueue (Outgoing F)) (nodeId taskId : String) :
    Shorter (queue.ack nodeId taskId) queue := by
  intro other
  rw [TaskQueue.queueFor_ack]
  split
  · next same =>
      rw [same]
      exact List.length_filter_le _ _
  · exact Nat.le_refl _

theorem stageLoad_le {after before : TaskQueue (Outgoing F)} (shorter : Shorter after before)
    (stage : Stage F) : stageLoad after stage ≤ stageLoad before stage := by
  cases stage with
  | registering msg | acking msg | snapshotting msg | reaping msg expired =>
      have less := shorter msg.sender
      simp only [stageLoad]
      omega
  | _ => exact Nat.le_refl _

theorem connLoad_le {after before : TaskQueue (Outgoing F)} (shorter : Shorter after before)
    (conn : Connection F) : connLoad after conn ≤ connLoad before conn := by
  have less := stageLoad_le shorter conn.stage
  simp only [connLoad]
  omega

theorem toil_lt {bound : Nat} {state after : Bridge F} {id : CallId} (call : ApiCall F)
    (inside : id < bound) (calls : after.calls = Function.update state.calls id call)
    (less : callToil call < callToil (state.calls id)) : toil bound after < toil bound state := by
  have fewer : toil bound after + 0 < toil bound state + 0 := by
    apply total_lt inside
    · intro other apart
      simp [calls, Function.update_of_ne apart]
    · simpa [calls] using less
  exact fewer

theorem backlog_lt {bound : Nat} {state after : Bridge F} {id : ConnId} (changed : Connection F)
    (inside : id < bound) (conns : after.conns = Function.update state.conns id changed)
    (shorter : Shorter after.taskQueue state.taskQueue)
    (less : connLoad after.taskQueue changed + after.updates.buffer.length <
      connLoad state.taskQueue (state.conns id) + state.updates.buffer.length) :
    backlog bound after < backlog bound state := by
  apply total_lt inside
  · intro other apart
    simp only [conns, Function.update_of_ne apart]
    exact connLoad_le shorter _
  · simpa [conns] using less

theorem Within.call_lt {bound : Nat} {state : Bridge F} (within : Within bound state)
    {id : CallId} (begun : state.calls id ≠ .idle) : id < bound :=
  Nat.lt_of_not_le fun outside => begun (within.calls id outside)

theorem Within.conn_lt {bound : Nat} {state : Bridge F} (within : Within bound state)
    {id : ConnId} (used : ¬ Unused (state.conns id)) : id < bound :=
  Nat.lt_of_not_le fun outside => used (within.conns id outside)

theorem lessWork_of_toil {bound : Nat} {state after : Bridge F}
    (less : toil bound after < toil bound state) :
    lessWork (work bound after) (work bound state) :=
  Prod.Lex.left _ _ less

theorem lessWork_of_backlog {bound : Nat} {state after : Bridge F}
    (calls : after.calls = state.calls) (less : backlog bound after < backlog bound state) :
    lessWork (work bound after) (work bound state) := by
  unfold lessWork work toil
  rw [calls]
  exact Prod.Lex.right _ less

/-! What the serving steps keep. -/

theorem ConnectionsLocked.congr {before after : Bridge F} (held : ConnectionsLocked before)
    (lock : after.connectionsLock = before.connectionsLock)
    (calls : after.calls = before.calls) : ConnectionsLocked after := by
  unfold ConnectionsLocked
  rw [lock, calls]
  exact held

theorem ConnectionsLocked.of_free {state : Bridge F} (free : state.connectionsLock = none) :
    ConnectionsLocked state := by
  intro id locked
  rw [free] at locked
  cases locked

theorem ConnectionsLocked.setCall {state : Bridge F} (held : ConnectionsLocked state)
    (id : CallId) (call : ApiCall F)
    (stays : callDelivers (state.calls id) → callDelivers call) :
    ConnectionsLocked (state.setCall id call) := by
  intro other locked
  have delivers := held other locked
  by_cases same : other = id
  · subst same
    simpa [Bridge.setCall] using stays delivers
  · simpa [Bridge.setCall, same] using delivers

theorem ConnectionsLocked.connect (state : Bridge F) (id : CallId) (nodeId : String)
    (conn : ConnId) (out : Outgoing F) :
    ConnectionsLocked ({ state with connectionsLock := some id }.setCall id
      (.delivering nodeId conn out)) := by
  intro other locked
  cases locked
  exact ⟨nodeId, conn, out, by simp [Bridge.setCall]⟩

theorem Roomy.congr {before after : Bridge F} (held : Roomy before)
    (conns : after.conns = before.conns)
    (updates : after.updates.capacity = before.updates.capacity) : Roomy after := by
  constructor
  · rw [conns]
    exact held.write
  · rw [updates]
    exact held.updates

theorem Roomy.setConn {state : Bridge F} (held : Roomy state) (id : ConnId)
    (changed : Connection F)
    (capacity : changed.write.capacity = (state.conns id).write.capacity) :
    Roomy (state.setConn id changed) := by
  constructor
  · intro other
    by_cases same : other = id
    · subst same
      simpa [Bridge.setConn, capacity] using held.write other
    · simpa [Bridge.setConn, same] using held.write other
  · exact held.updates

variable [FloatOps F]

theorem connectionsLocked_step (config : BridgeConfig F) {state after : Bridge F}
    {action : Action F} (held : ConnectionsLocked state)
    (moved : Moves config state action after) : ConnectionsLocked after := by
  cases moved with
  | startTask id nodeId msg commandId here | startAlert id nodeId alertId status reasons here
  | skipInsert id task here | absent id task here | alertAbsent id nodeId msg here =>
      exact held.setCall id _ (by simp [callDelivers, here])
  | insert id task command here | queue id task here | queueReap id task here
  | callReap id task removed here =>
      apply ConnectionsLocked.setCall
      · exact held.congr rfl rfl
      · simp [callDelivers, here]
  | connect id task conn | alertConnect id nodeId msg conn =>
      exact ConnectionsLocked.connect state id _ conn _
  | deliver => exact ConnectionsLocked.of_free rfl
  | _ => exact held.congr rfl rfl

theorem roomy_step (config : BridgeConfig F) {state after : Bridge F} {action : Action F}
    (held : Roomy state) (moved : Moves config state action after) : Roomy after := by
  cases moved with
  | deliver id nodeId conn out write here sent =>
      have pushed := held.setConn conn { state.conns conn with write := write }
        (Channel.capacity_send sent)
      exact pushed.congr rfl rfl
  | acknowledgeRegistration id msg write here sent | replay id msg out rest write here sent =>
      exact held.setConn id _ (Channel.capacity_send sent)
  | emit id update updates here sent | announce id nodeId updates here sent =>
      apply Roomy.setConn
      · exact held.congr rfl (Channel.capacity_send sent)
      · rfl
  | writerTakes id out write taken => exact held.setConn id _ (Channel.capacity_recv taken)
  | consume emitted updates taken => exact held.congr rfl (Channel.capacity_recv taken)
  | receive id msg here =>
      apply held.setConn
      unfold arrive
      split <;> rfl
  | register id | snapshot id | drain id | connReap id | replayed id | locate id | route id
  | reject id | upsert id | ackTask id | pass id | correlate id | disconnect id
  | unregister id | hangUp id | writerWrote id | writerFailed id =>
      apply Roomy.setConn
      · exact held.congr rfl rfl
      · rfl
  | _ => exact held.congr rfl rfl

theorem idle_kept (config : BridgeConfig F) {state after : Bridge F} {action : Action F}
    (served : serves action) (moved : Moves config state action after) {id : CallId}
    (idle : state.calls id = .idle) : after.calls id = .idle := by
  cases moved with
  | startTask | startAlert => cases served
  | insert other task command here | skipInsert other task here | queue other task here
  | queueReap other task here | callReap other task removed here | absent other task here
  | connect other task conn here | alertAbsent other nodeId msg here
  | alertConnect other nodeId msg conn here | deliver other nodeId conn out write here =>
      have apart : id ≠ other := by
        rintro rfl
        rw [here] at idle
        cases idle
      simpa [setCall, setWrite, setConn, apart] using idle
  | _ => exact idle

theorem unused_kept (config : BridgeConfig F) {state after : Bridge F} {action : Action F}
    (locked : DeliveriesLocked state) (registered : Registered state)
    (served : serves action) (moved : Moves config state action after) {id : ConnId}
    (unused : Unused (state.conns id)) : after.conns id = state.conns id := by
  cases moved with
  | receive | hangUp => cases served
  | deliver call nodeId conn out write here sent =>
      -- The call has found it, so it is registered.
      have found := (locked call nodeId conn out here).2
      have apart : id ≠ conn := by
        rintro rfl
        have named := registered.entered nodeId id found
        rw [unused.registered] at named
        cases named
      simp [setCall, setWrite, setConn, apart]
  | register other msg here | acknowledgeRegistration other msg write here
  | snapshot other msg here | drain other msg here | connReap other msg expired here
  | replayed other msg here | replay other msg out rest write here | locate other msg here
  | route other msg position update limiter here
  | reject other msg position failure limiter here
  | upsert other update nodeId capability here
  | ackTask other nodeId taskId command status reasons here | pass other update here
  | correlate other nodeId taskId status reasons cleared here | emit other update updates here
  | disconnect other nodeId here | unregister other nodeId here
  | announce other nodeId updates here =>
      have apart : id ≠ other := by
        rintro rfl
        have stage := unused.stage
        rw [here] at stage
        cases stage
      simp [setStage, setConn, apart]
  | writerTakes other out write taken =>
      have apart : id ≠ other := by
        rintro rfl
        obtain ⟨_, _, held, _⟩ := Channel.recv_cases taken
        rw [unused.buffer] at held
        cases held
      simp [setConn, apart]
  | writerWrote other out busy | writerFailed other out busy =>
      have apart : id ≠ other := by
        rintro rfl
        rw [unused.writing] at busy
        cases busy
      simp [setConn, apart]
  | _ => rfl

theorem within_kept (config : BridgeConfig F) {bound : Nat} {state after : Bridge F}
    {action : Action F} (locked : DeliveriesLocked state) (registered : Registered state)
    (within : Within bound state) (served : serves action)
    (moved : Moves config state action after) : Within bound after := by
  constructor
  · intro id outside
    exact idle_kept config served moved (within.calls id outside)
  · intro id outside
    rw [unused_kept config locked registered served moved (within.conns id outside)]
    exact within.conns id outside

/-- One step is a step of one connection at most. -/
theorem conns_step (config : BridgeConfig F) {state after : Bridge F} {action : Action F}
    (moved : Moves config state action after) :
    ∃ stepped, ∀ id, id ≠ stepped → after.conns id = state.conns id := by
  cases moved with
  | deliver id nodeId conn =>
      exact ⟨conn, fun other apart => by simp [setCall, setWrite, setConn, apart]⟩
  | register id | acknowledgeRegistration id | snapshot id | drain id | connReap id
  | replayed id | replay id | locate id | route id | reject id | upsert id | ackTask id
  | pass id | correlate id | emit id | disconnect id | unregister id | announce id
  | receive id | hangUp id | writerTakes id | writerWrote id | writerFailed id =>
      exact ⟨id, fun other apart => by simp [setStage, setConn, apart]⟩
  | _ => exact ⟨0, fun _ _ => rfl⟩

theorem within_some (config : BridgeConfig F) {state : Bridge F}
    (reached : Reachable (machine config) state) : ∃ bound, Within bound state := by
  apply reached.invariant fun state : Bridge F => ∃ bound, Within bound state
  · exact ⟨0, fun _ _ => rfl, fun _ _ => ⟨rfl, rfl, rfl, rfl⟩⟩
  · rintro before action after _ ⟨bound, within⟩ taken
    obtain ⟨call, sameCalls⟩ := calls_step config (moves_of_step config taken)
    obtain ⟨conn, sameConns⟩ := conns_step config (moves_of_step config taken)
    refine ⟨max bound (max (call + 1) (conn + 1)), fun id large => ?_, fun id large => ?_⟩
    · rw [sameCalls id (by rintro rfl; omega)]
      exact within.calls id (by omega)
    · rw [sameConns id (by rintro rfl; omega)]
      exact within.conns id (by omega)

theorem advance_lt (config : BridgeConfig F) {bound : Nat} {state after : Bridge F}
    {id : CallId} (within : Within bound state)
    (moved : Moves config state (.advance id) after) : toil bound after < toil bound state := by
  have inside : state.calls id ≠ .idle → id < bound := within.call_lt
  cases moved with
  | insert _ task command here | skipInsert _ task here | queue _ task here
  | queueReap _ task here | callReap _ task removed here | absent _ task here
  | connect _ task conn here | alertAbsent _ nodeId msg here
  | alertConnect _ nodeId msg conn here | deliver _ nodeId conn out write here =>
      apply toil_lt
      · exact inside (by simp [here])
      · rfl
      · simp [callToil, here]

theorem proceed_lt (config : BridgeConfig F) {bound : Nat} {state after : Bridge F}
    {id : ConnId} (within : Within bound state)
    (moved : Moves config state (.proceed id) after) :
    backlog bound after < backlog bound state := by
  have inside : (state.conns id).stage ≠ .reading → id < bound :=
    fun busy => within.conn_lt fun unused => busy unused.stage
  cases moved with
  | register _ msg here | replayed _ msg here | locate _ msg here
  | route _ msg position update limiter here | reject _ msg position failure limiter here
  | upsert _ update nodeId capability here | pass _ update here
  | correlate _ nodeId taskId status reasons cleared here | disconnect _ nodeId here
  | unregister _ nodeId here | connReap _ msg expired here =>
      apply backlog_lt
      · exact inside (by simp [here])
      · rfl
      · exact shorter_rfl _
      · simp [connLoad, stageLoad, here, TaskQueue.pendingFor, setStage, setConn]
  | acknowledgeRegistration _ msg write here sent | replay _ msg out rest write here sent =>
      have longer := Channel.length_send sent
      apply backlog_lt
      · exact inside (by simp [here])
      · rfl
      · exact shorter_rfl _
      · simp only [connLoad, stageLoad, here, List.length_cons, setConn]
        omega
  | snapshot _ msg here | drain _ msg here =>
      have shorter := shorter_drain state.taskQueue state.clock
      have less := shorter msg.sender
      apply backlog_lt
      · exact inside (by simp [here])
      · rfl
      · exact shorter
      · simp only [connLoad, stageLoad, here, TaskQueue.pendingFor, List.length_map, setStage,
          setConn]
        omega
  | ackTask _ nodeId taskId command status reasons here =>
      apply backlog_lt
      · exact inside (by simp [here])
      · rfl
      · exact shorter_ack state.taskQueue nodeId taskId
      · simp [connLoad, stageLoad, here, setStage, setConn]
  | emit _ update updates here sent | announce _ nodeId updates here sent =>
      have longer := Channel.length_send sent
      apply backlog_lt
      · exact inside (by simp [here])
      · rfl
      · exact shorter_rfl _
      · simp only [connLoad, stageLoad, here, setStage, setConn]
        omega

theorem work_lt (config : BridgeConfig F) {bound : Nat} {state after : Bridge F}
    {action : Action F} (within : Within bound state) (served : serves action)
    (moved : Moves config state action after) :
    lessWork (work bound after) (work bound state) := by
  have calls : (∀ id, action ≠ .advance id) → after.calls = state.calls := by
    intro apart
    cases moved with
    | startTask | startAlert => cases served
    | insert id | skipInsert id | queue id | queueReap id | callReap id | absent id | connect id
    | alertAbsent id | alertConnect id | deliver id => exact absurd rfl (apart id)
    | _ => rfl
  cases action with
  | advance id => exact lessWork_of_toil (advance_lt config within moved)
  | proceed id => exact lessWork_of_backlog (calls (by simp)) (proceed_lt config within moved)
  | writerTakes id =>
      cases moved with
      | writerTakes _ out write taken =>
          obtain ⟨_, _, held, _⟩ := Channel.recv_cases taken
          have inside : id < bound :=
            within.conn_lt fun unused => by simp [unused.buffer] at held
          apply lessWork_of_backlog (calls (by simp))
          apply backlog_lt _ inside
          · rfl
          · exact shorter_rfl _
          · simp only [connLoad, held, List.length_cons, writingLoad, setConn]
            omega
  | writerWrote id ok =>
      cases moved with
      | writerWrote _ out busy | writerFailed _ out busy =>
          have inside : id < bound :=
            within.conn_lt fun unused => by simp [unused.writing] at busy
          apply lessWork_of_backlog (calls (by simp))
          apply backlog_lt _ inside
          · rfl
          · exact shorter_rfl _
          · simp [connLoad, busy, writingLoad, setConn, Channel.close]
  | consume =>
      cases moved with
      | consume emitted updates taken =>
          obtain ⟨_, _, held, _⟩ := Channel.recv_cases taken
          apply lessWork_of_backlog (calls (by simp))
          simp [backlog, held]
  | tick | sendTask | sendAlertAck | receive | hangUp | dropReceiver => cases served

/-! Where none of these steps can be taken. -/

omit [FloatOps F] in
/-- With the locks free and the channels empty, every call that has begun goes on. -/
theorem call_advances {state : Bridge F} {id : CallId} (still : state.stepCall id = none)
    (connections : state.connectionsLock = none) (queue : state.queueLock = none)
    (sends : ∀ conn out, ∃ write, (state.conns conn).write.send out = some write) :
    state.calls id = .idle ∨ ∃ result, state.calls id = .returned result := by
  unfold stepCall at still
  split at still
  · next here => exact Or.inl here
  · next result here => exact Or.inr ⟨result, here⟩
  · split at still <;> cases still
  · simp only [queue, Option.isSome_none, Bool.false_eq_true, if_false] at still
    split at still <;> cases still
  · cases still
  · simp only [connections, Option.isSome_none, Bool.false_eq_true, if_false] at still
    split at still <;> cases still
  · simp only [connections, Option.isSome_none, Bool.false_eq_true, if_false] at still
    split at still <;> cases still
  · next nodeId conn out here =>
      obtain ⟨write, sent⟩ := sends conn out
      simp [sent] at still

theorem conn_proceeds (config : BridgeConfig F) {state : Bridge F} {id : ConnId}
    (still : stepConn config state id = none) (connections : state.connectionsLock = none)
    (queue : state.queueLock = none)
    (sends : ∀ out, ∃ write, (state.conns id).write.send out = some write)
    (emits : ∀ emitted, ∃ updates, state.updates.send emitted = some updates) :
    (state.conns id).stage = .reading ∨ (state.conns id).stage = .closed := by
  unfold stepConn at still
  split at still
  · next here => exact Or.inl here
  · next here => exact Or.inr here
  · simp [connections] at still
  · next msg here =>
      obtain ⟨write, sent⟩ :=
        sends ⟨none, makeRegistrationAck state.systemTime config.nodeId msg.sender⟩
      simp [sent] at still
  · simp only [queue, Option.isSome_none, Bool.false_eq_true, if_false] at still
    split at still <;> cases still
  · cases still
  · cases still
  · next msg out rest here =>
      obtain ⟨write, sent⟩ := sends out
      simp [sent] at still
  · cases still
  · dsimp only at still
    split at still <;> cases still
  · next update here =>
      cases update <;> simp [record, queue] at still
  · cases still
  · next update here =>
      obtain ⟨updates, sent⟩ := emits ⟨id, update⟩
      simp [sent] at still
  · simp [connections] at still
  · cases still
  · next nodeId here =>
      obtain ⟨updates, sent⟩ := emits ⟨id, .nodeDisconnected nodeId⟩
      simp [sent] at still

theorem atEase_of_resting (config : BridgeConfig F) {state : Bridge F}
    (locked : ConnectionsLocked state) (reaping : QueueLocked state) (roomy : Roomy state)
    (resting : Resting (machine config) serves state) : AtEase state := by
  have writers : ∀ id, (state.conns id).writing = none := by
    intro id
    have still := resting (.writerWrote id true) trivial
    cases busy : (state.conns id).writing with
    | none => rfl
    | some out => simp [machine, step, busy] at still
  have written : ∀ id, (state.conns id).write.closed = false →
      (state.conns id).write.buffer = [] := by
    intro id
    rw [← Channel.recv_eq_none]
    have still := resting (.writerTakes id) trivial
    cases taken : (state.conns id).write.recv with
    | none => rfl
    | some given => simp [machine, step, writers id, taken] at still
  have consumed : state.updates.closed = false → state.updates.buffer = [] := by
    rw [← Channel.recv_eq_none]
    have still := resting .consume trivial
    cases taken : state.updates.recv with
    | none => rfl
    | some given => simp [machine, step, taken] at still
  have sends : ∀ id out, ∃ write, (state.conns id).write.send out = some write :=
    fun id out => Channel.send_of_empty (roomy.write id) (written id) out
  have emits : ∀ emitted, ∃ updates, state.updates.send emitted = some updates :=
    Channel.send_of_empty roomy.updates consumed
  -- Whoever holds a lock goes on, so both are free.
  have connectionsFree : state.connectionsLock = none := by
    cases lock : state.connectionsLock with
    | none => rfl
    | some id =>
        obtain ⟨nodeId, conn, out, delivers⟩ := locked id lock
        obtain ⟨write, sent⟩ := sends conn out
        have still := resting (.advance id) trivial
        simp [machine, step, stepCall, delivers, sent] at still
  have queueFree : state.queueLock = none := by
    cases lock : state.queueLock with
    | none => rfl
    | some holder =>
        cases holder with
        | call id =>
            obtain ⟨task, removed, reaps⟩ := reaping.byCall id lock
            have still := resting (.advance id) trivial
            simp [machine, step, stepCall, reaps] at still
        | conn id =>
            obtain ⟨msg, expired, reaps⟩ := reaping.byConn id lock
            have still := resting (.proceed id) trivial
            simp [machine, step, stepConn, reaps] at still
  constructor
  · exact fun id => call_advances (resting (.advance id) trivial) connectionsFree queueFree sends
  · exact fun id =>
      conn_proceeds config (resting (.proceed id) trivial) connectionsFree queueFree (sends id)
        emits
  · exact writers
  · exact written
  · exact consumed
  · exact connectionsFree
  · exact queueFree

theorem resting_of_atEase (config : BridgeConfig F) {state : Bridge F} (ease : AtEase state) :
    Resting (machine config) serves state := by
  intro action served
  cases action with
  | advance id =>
      rcases ease.calls id with idle | ⟨result, returned⟩
      · simp [machine, step, stepCall, idle]
      · simp [machine, step, stepCall, returned]
  | proceed id =>
      rcases ease.conns id with reading | closed
      · simp [machine, step, stepConn, reading]
      · simp [machine, step, stepConn, closed]
  | writerTakes id =>
      have nothing := (Channel.recv_eq_none _).mpr (ease.written id)
      simp [machine, step, ease.writers id, nothing]
  | writerWrote id ok => simp [machine, step, ease.writers id]
  | consume =>
      have nothing := (Channel.recv_eq_none _).mpr ease.consumed
      simp [machine, step, nothing]
  | tick | sendTask | sendAlertAck | receive | hangUp | dropReceiver => cases served

theorem serving_descends (config : BridgeConfig F) (bound : Nat) :
    Descends (machine config) serves
      (fun state => Reachable (machine config) state ∧ Within bound state) lessWork
      (work bound) := by
  rintro before action after ⟨reached, within⟩ served taken
  obtain ⟨locked, registered, _⟩ := delivery_invariant config reached
  have moved := moves_of_step config taken
  exact ⟨⟨reached.next taken, within_kept config locked registered within served moved⟩,
    work_lt config within served moved⟩

theorem connectionsLocked (config : BridgeConfig F) {state : Bridge F}
    (reached : Reachable (machine config) state) : ConnectionsLocked state := by
  apply reached.invariant
  · exact ConnectionsLocked.of_free rfl
  · intro before action after _ held taken
    exact connectionsLocked_step config held (moves_of_step config taken)

theorem roomy (config : BridgeConfig F) {state : Bridge F}
    (reached : Reachable (machine config) state) : Roomy state := by
  apply reached.invariant
  · exact ⟨fun _ => Nat.succ_pos _, Nat.succ_pos _⟩
  · intro before action after _ held taken
    exact roomy_step config held (moves_of_step config taken)

theorem resting_iff_atEase (config : BridgeConfig F) {state : Bridge F}
    (reached : Reachable (machine config) state) :
    Resting (machine config) serves state ↔ AtEase state :=
  ⟨atEase_of_resting config (connectionsLocked config reached)
    (locks_invariant config reached).2 (roomy config reached), resting_of_atEase config⟩

/-- From every reachable state: the steps that carry on come to an end in whatever order they
are taken, some of them lead to a state at ease, and where none of them can be taken the
bridge is at ease. So the bridge has no deadlock while the writers write and the application
takes its updates. -/
theorem comes_to_ease (config : BridgeConfig F) {state : Bridge F}
    (reached : Reachable (machine config) state) :
    ¬ Endless (machine config) serves state ∧
      (∃ actions after, (∀ action ∈ actions, serves action) ∧
        follow (machine config) state actions = some after ∧ AtEase after) ∧
      (Resting (machine config) serves state ↔ AtEase state) := by
  obtain ⟨bound, within⟩ := within_some config reached
  have descends := serving_descends config bound
  refine ⟨descends.not_endless lessWork_founded ⟨reached, within⟩, ?_,
    resting_iff_atEase config reached⟩
  obtain ⟨actions, after, served, done, ⟨later, _⟩, resting⟩ :=
    descends.comes_to_rest lessWork_founded ⟨reached, within⟩
  exact ⟨actions, after, served, done, (resting_iff_atEase config later).mp resting⟩

/-- A task is on its way to a node that has just registered. -/
theorem comes_to_ease_registerThenTask :
    ∃ state : Bridge Float, ¬ Resting (machine plainConfig) serves state ∧
      ¬ Endless (machine plainConfig) serves state ∧
        ∃ actions after, (∀ action ∈ actions, serves action) ∧
          follow (machine plainConfig) state actions = some after ∧ AtEase after := by
  have run : Run (machine plainConfig) _ _ := replay_reachable registerThenTask rfl
  obtain ⟨ends, rest, resting⟩ := comes_to_ease plainConfig ⟨_, run⟩
  refine ⟨_, fun still => ?_, ends, rest⟩
  have written := (resting.mp still).written 0 rfl
  cases written

end PeatSapient.Bridge
