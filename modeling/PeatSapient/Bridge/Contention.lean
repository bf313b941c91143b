import PeatSapient.Bridge.Delivery

/-! Who waits for whom. An operation waits for a lock that another one holds, or for room in
the write channel of a node; a call that sends to a node does the second while it holds the
lock of the connections. -/

namespace PeatSapient.Bridge

open HashMap Mpsc Execution

variable {F : Type}

inductive BridgeLock where
  | connections
  | queue
  deriving DecidableEq, Repr

def heldBy (state : Bridge F) : BridgeLock → Option LockHolder
  | .connections => state.connectionsLock.map .call
  | .queue => state.queueLock

def callAwaits : ApiCall F → Option (String × BridgeLock)
  | .queueing task => some (task.nodeId, .queue)
  | .connecting task => some (task.nodeId, .connections)
  | .alerting nodeId _ => some (nodeId, .connections)
  | _ => none

def stageAwaits : Stage F → Option (String × BridgeLock)
  | .registering msg => some (msg.sender, .connections)
  | .snapshotting msg => some (msg.sender, .queue)
  | .recording (.taskAcknowledged nodeId _ _ _ _) => some (nodeId, .queue)
  | .disconnecting nodeId => some (nodeId, .connections)
  | _ => none

def awaitsLock (state : Bridge F) : LockHolder → Option (String × BridgeLock)
  | .call id => callAwaits (state.calls id)
  | .conn id => stageAwaits (state.conns id).stage

/-- The node in whose write channel an operation waits for room. -/
def awaitsRoom (state : Bridge F) : LockHolder → Option String
  | .call id =>
      match state.calls id with
      | .delivering nodeId conn _ => if (state.conns conn).write.full then some nodeId else none
      | _ => none
  | .conn id =>
      match (state.conns id).stage with
      | .acking msg | .replaying msg (_ :: _) =>
          if (state.conns id).write.full then some msg.sender else none
      | _ => none

/-- Nobody waits for a lock whose holder waits for room in the channel of another node. -/
def StallsApart (state : Bridge F) : Prop :=
  ∀ waiter lock holder nodeId other, state.awaitsLock waiter = some (nodeId, lock) →
    state.heldBy lock = some holder → state.awaitsRoom holder = some other → other = nodeId

def LockMoves (state : Bridge F) : Prop :=
  ∀ id nodeId conn out, state.calls id = .delivering nodeId conn out →
    (state.conns conn).write.full = false

def fullAt (state : Bridge F) (nodeId : String) : Bool :=
  (state.connections.lookup nodeId).any fun conn => (state.conns conn).write.full

def sendsTo (state : Bridge F) (conn : ConnId) : Bool :=
  state.connectionsLock.any fun id =>
    match state.calls id with
    | .delivering _ target _ => decide (target = conn)
    | _ => false

/-- A call takes the lock for a node whose channel is full, or a connection puts the last
message that fits into its own channel while a call with the lock is about to send there. -/
def stalls (state : Bridge F) : Action F → Bool
  | .advance id =>
      match state.calls id with
      | .connecting task => state.fullAt task.nodeId
      | .alerting nodeId _ => state.fullAt nodeId
      | _ => false
  | .proceed conn =>
      match (state.conns conn).stage with
      | .acking _ | .replaying _ (_ :: _) =>
          state.sendsTo conn && (state.conns conn).write.lastSlot
      | _ => false
  | _ => false

def callReaps (call : ApiCall F) : Prop :=
  ∃ task removed, call = .reaping task removed

def stageReaps (stage : Stage F) : Prop :=
  ∃ msg expired, stage = .reaping msg expired

structure QueueLocked (state : Bridge F) : Prop where
  byCall : ∀ id, state.queueLock = some (.call id) → callReaps (state.calls id)
  byConn : ∀ id, state.queueLock = some (.conn id) → stageReaps (state.conns id).stage

theorem LockMoves.setCall {state : Bridge F} (held : LockMoves state) (id : CallId)
    (call : ApiCall F) (silent : ∀ nodeId conn out, call ≠ .delivering nodeId conn out) :
    LockMoves (state.setCall id call) := by
  intro other nodeId conn out delivering
  by_cases same : other = id
  · subst same
    exact absurd (by simpa [Bridge.setCall] using delivering) (silent nodeId conn out)
  · exact held other nodeId conn out (by simpa [Bridge.setCall, same] using delivering)

theorem LockMoves.setConn {state : Bridge F} (held : LockMoves state) (id : ConnId)
    (changed : Connection F)
    (roomy : ∀ other nodeId out, state.calls other = .delivering nodeId id out →
      changed.write.full = false) : LockMoves (state.setConn id changed) := by
  intro other nodeId conn out delivering
  by_cases same : conn = id
  · subst same
    simpa [Bridge.setConn] using roomy other nodeId out delivering
  · simpa [Bridge.setConn, same] using held other nodeId conn out delivering

theorem LockMoves.stage {state : Bridge F} (held : LockMoves state) (id : ConnId)
    (stage : Stage F) : LockMoves (state.setStage id stage) :=
  held.setConn id _ fun other nodeId out delivering => held other nodeId id out delivering

theorem LockMoves.congr {before after : Bridge F} (held : LockMoves before)
    (calls : after.calls = before.calls) (conns : after.conns = before.conns) :
    LockMoves after := by
  unfold LockMoves
  rw [calls, conns]
  exact held

theorem LockMoves.connect {state : Bridge F} (held : LockMoves state) (id : CallId)
    (nodeId : String) (conn : ConnId) (out : Outgoing F)
    (found : state.connections.lookup nodeId = some conn) (room : state.fullAt nodeId = false) :
    LockMoves ({ state with connectionsLock := some id }.setCall id
      (.delivering nodeId conn out)) := by
  intro other target receiver sent delivering
  by_cases same : other = id
  · subst same
    have shape : nodeId = target ∧ conn = receiver ∧ out = sent := by
      simpa [Bridge.setCall] using delivering
    obtain ⟨rfl, rfl, rfl⟩ := shape
    simpa [fullAt, found, Bridge.setCall] using room
  · exact held other target receiver sent (by simpa [Bridge.setCall, same] using delivering)

theorem LockMoves.room_of_connect {state : Bridge F} {id : CallId} {nodeId : String}
    {conn : ConnId} {out : Outgoing F}
    (held : LockMoves ({ state with connectionsLock := some id }.setCall id
      (.delivering nodeId conn out))) : (state.conns conn).write.full = false :=
  held id nodeId conn out (by simp [Bridge.setCall])

theorem sendsTo_of_delivering {state : Bridge F} (locked : DeliveriesLocked state) {id : CallId}
    {nodeId : String} {conn : ConnId} {out : Outgoing F}
    (delivering : state.calls id = .delivering nodeId conn out) : state.sendsTo conn = true := by
  have lock := (locked id nodeId conn out delivering).1
  simp [sendsTo, lock, delivering]

theorem LockMoves.push {state : Bridge F} (held : LockMoves state)
    (locked : DeliveriesLocked state) (id : ConnId) (stage : Stage F) {out : Outgoing F}
    {write : Channel (Outgoing F)} (sent : (state.conns id).write.send out = some write)
    (room : (state.sendsTo id && (state.conns id).write.lastSlot) = false) :
    LockMoves (state.setConn id { state.conns id with write := write, stage := stage }) := by
  apply held.setConn
  intro other nodeId given delivering
  rw [sendsTo_of_delivering locked delivering, Bool.true_and] at room
  rw [Channel.full_send sent, room]

theorem QueueLocked.congr {before after : Bridge F} (held : QueueLocked before)
    (lock : after.queueLock = before.queueLock) (calls : after.calls = before.calls)
    (conns : after.conns = before.conns) : QueueLocked after := by
  constructor
  · rw [lock, calls]
    exact held.byCall
  · rw [lock, conns]
    exact held.byConn

theorem QueueLocked.of_free {state : Bridge F} (free : state.queueLock = none) :
    QueueLocked state := by
  constructor <;> simp [free]

theorem QueueLocked.setCall {state : Bridge F} (held : QueueLocked state) (id : CallId)
    (call : ApiCall F) (stays : callReaps (state.calls id) → callReaps call) :
    QueueLocked (state.setCall id call) := by
  constructor
  · intro other locked
    have reaps := held.byCall other locked
    by_cases same : other = id
    · subst same
      simpa [Bridge.setCall] using stays reaps
    · simpa [Bridge.setCall, same] using reaps
  · exact held.byConn

theorem QueueLocked.setConn {state : Bridge F} (held : QueueLocked state) (id : ConnId)
    (changed : Connection F)
    (stays : stageReaps (state.conns id).stage → stageReaps changed.stage) :
    QueueLocked (state.setConn id changed) := by
  constructor
  · exact held.byCall
  · intro other locked
    have reaps := held.byConn other locked
    by_cases same : other = id
    · subst same
      simpa [Bridge.setConn] using stays reaps
    · simpa [Bridge.setConn, same] using reaps

variable [FloatOps F]

theorem lockMoves_step (config : BridgeConfig F) {state after : Bridge F} {action : Action F}
    (held : LockMoves state) (locked : DeliveriesLocked state)
    (clear : state.stalls action = false) (moved : Moves config state action after) :
    LockMoves after := by
  cases moved with
  | startTask id nodeId msg commandId here =>
      rcases startSendTask_cases nodeId msg commandId with ⟨result, shape⟩ | ⟨task, shape⟩ <;>
        exact held.setCall id _ (by simp [shape])
  | startAlert id | skipInsert id | absent id | alertAbsent id =>
      exact held.setCall id _ (by simp)
  | insert id | queue id | queueReap id | callReap id =>
      exact LockMoves.setCall (held.congr rfl rfl) id _ (by simp)
  | connect id task conn here free found =>
      apply held.connect id task.nodeId conn _ found
      simpa [stalls, here] using clear
  | alertConnect id nodeId msg conn here free found =>
      apply held.connect id nodeId conn _ found
      simpa [stalls, here] using clear
  | deliver id nodeId conn out write here sent =>
      intro other target receiver given delivering
      by_cases same : other = id
      · subst same
        simp [setCall] at delivering
      -- The lock is the delivering call's alone.
      · have mine := (locked id nodeId conn out here).1
        have theirs := (locked other target receiver given
          (by simpa [setCall, setWrite, setConn, same] using delivering)).1
        rw [mine] at theirs
        exact absurd (Option.some.inj theirs).symm same
  | acknowledgeRegistration id msg write here sent =>
      apply held.push locked id _ sent
      simpa [stalls, here] using clear
  | replay id msg out rest write here sent =>
      apply held.push locked id _ sent
      simpa [stalls, here] using clear
  | receive id msg here =>
      apply held.setConn
      intro other nodeId out delivering
      have room := held other nodeId id out delivering
      unfold arrive
      split <;> exact room
  | hangUp id | replayed id | locate id | pass id => exact held.stage id _
  | register id | snapshot id | drain id | connReap id | route id | reject id | upsert id
  | ackTask id | correlate id | emit id | disconnect id | unregister id | announce id =>
      exact LockMoves.stage (held.congr rfl rfl) id _
  | writerTakes id out write taken =>
      exact held.setConn id _ fun _ _ _ _ => Channel.full_recv taken
  | writerWrote id out busy =>
      exact held.setConn id _ fun other nodeId given delivering =>
        held other nodeId id given delivering
  | writerFailed id out busy => exact held.setConn id _ fun _ _ _ _ => rfl
  | tick | consume | dropReceiver => exact held.congr rfl rfl

theorem queueLocked_step (config : BridgeConfig F) {state after : Bridge F} {action : Action F}
    (held : QueueLocked state) (moved : Moves config state action after) :
    QueueLocked after := by
  cases moved with
  | startTask id nodeId msg commandId here | startAlert id nodeId alertId status reasons here
  | skipInsert id task here | absent id task here | alertAbsent id nodeId msg here =>
      exact held.setCall id _ (by simp [callReaps, here])
  | insert id task command here | queue id task here | connect id task conn here
  | alertConnect id nodeId msg conn here =>
      apply QueueLocked.setCall
      · exact held.congr rfl rfl rfl
      · simp [callReaps, here]
  | deliver id nodeId conn out write here sent =>
      have pushed := held.setConn conn { state.conns conn with write := write } fun reaps => reaps
      apply QueueLocked.setCall
      · exact pushed.congr rfl rfl rfl
      · simp [callReaps, setWrite, Bridge.setConn, here]
  | queueReap id task here free stale =>
      constructor
      · intro other locked
        cases locked
        exact ⟨task, state.reaped id task, by simp [Bridge.setCall]⟩
      · intro other locked
        cases locked
  | drain id msg here free stale =>
      constructor
      · intro other locked
        cases locked
      · intro other locked
        cases locked
        exact ⟨msg, (state.taskQueue.drainExpired state.clock).1, by
          simp [setStage, Bridge.setConn]⟩
  | callReap | connReap => exact QueueLocked.of_free rfl
  | receive id msg here | hangUp id here | replayed id msg here | locate id msg here
  | pass id update here | acknowledgeRegistration id msg write here
  | replay id msg out rest write here =>
      exact held.setConn id _ (by simp [stageReaps, here])
  | register id msg here | snapshot id msg here | route id msg position update limiter here
  | reject id msg position failure limiter here | upsert id update nodeId capability here
  | ackTask id nodeId taskId command status reasons here
  | correlate id nodeId taskId status reasons cleared here | emit id update updates here
  | disconnect id nodeId here | unregister id nodeId here | announce id nodeId updates here =>
      apply QueueLocked.setConn
      · exact held.congr rfl rfl rfl
      · simp [stageReaps, here]
  | writerTakes id | writerWrote id | writerFailed id =>
      exact held.setConn id _ fun reaps => reaps
  | tick | consume | dropReceiver => exact held.congr rfl rfl rfl

theorem locks_invariant (config : BridgeConfig F) {state : Bridge F}
    (reached : Reachable (machine config) state) :
    DeliveriesLocked state ∧ QueueLocked state := by
  constructor
  · exact (delivery_invariant config reached).1
  · apply reached.invariant
    · exact QueueLocked.of_free rfl
    · intro before action after _ held taken
      exact queueLocked_step config held (moves_of_step config taken)

omit [FloatOps F] in
/-- Whoever holds a lock goes on, so nobody stalls behind it. -/
theorem LockMoves.stallsApart {state : Bridge F} (moves : LockMoves state)
    (locked : QueueLocked state) : StallsApart state := by
  intro waiter lock holder nodeId other _ held waits
  cases lock with
  | connections =>
      obtain ⟨id, _, rfl⟩ := Option.map_eq_some_iff.mp held
      simp only [awaitsRoom] at waits
      split at waits
      · next target conn out delivering => simp [moves id target conn out delivering] at waits
      · cases waits
  | queue =>
      cases holder with
      | call id =>
          obtain ⟨task, removed, reaps⟩ := locked.byCall id held
          simp [awaitsRoom, reaps] at waits
      | conn id =>
          obtain ⟨msg, expired, reaps⟩ := locked.byConn id held
          simp [awaitsRoom, reaps] at waits

/-- A step that stalls leaves a full channel before the call with the lock. -/
theorem not_lockMoves_of_stalls (config : BridgeConfig F) {state after : Bridge F}
    {action : Action F} (stalled : state.stalls action = true)
    (moved : Moves config state action after) : ¬ LockMoves after := by
  intro moves
  cases moved with
  | connect id task conn here free found =>
      have full : (state.conns conn).write.full = true := by
        simpa [stalls, here, fullAt, found] using stalled
      simp [moves.room_of_connect] at full
  | alertConnect id nodeId msg conn here free found =>
      have full : (state.conns conn).write.full = true := by
        simpa [stalls, here, fullAt, found] using stalled
      simp [moves.room_of_connect] at full
  | acknowledgeRegistration id msg write here sent
  | replay id msg out rest write here sent =>
      simp only [stalls, here, Bool.and_eq_true] at stalled
      obtain ⟨target, last⟩ := stalled
      obtain ⟨call, _, sends⟩ := (Option.any_eq_true _ _).mp target
      split at sends
      · next nodeId conn given delivering =>
          obtain rfl := of_decide_eq_true sends
          have room := moves call nodeId conn given delivering
          rw [← Channel.full_send sent] at last
          simp [setConn, last] at room
      · cases sends
  | _ => simp_all [stalls, fullAt]

/-- One step is a step of one call at most. -/
theorem calls_step (config : BridgeConfig F) {state after : Bridge F} {action : Action F}
    (moved : Moves config state action after) :
    ∃ stepped, ∀ id, id ≠ stepped → after.calls id = state.calls id := by
  cases moved with
  | startTask id | startAlert id | insert id | skipInsert id | queue id | queueReap id
  | callReap id | absent id | connect id | alertAbsent id | alertConnect id =>
      exact ⟨id, fun other apart => by simp [setCall, apart]⟩
  | deliver id =>
      exact ⟨id, fun other apart => by simp [setCall, setWrite, setConn, apart]⟩
  | _ => exact ⟨0, fun _ _ => rfl⟩

theorem idle_from (config : BridgeConfig F) {state : Bridge F}
    (reached : Reachable (machine config) state) :
    ∃ bound : Nat, ∀ id : Nat, bound ≤ id → state.calls id = .idle := by
  apply reached.invariant fun state : Bridge F =>
    ∃ bound : Nat, ∀ id : Nat, bound ≤ id → state.calls id = .idle
  · exact ⟨0, fun _ _ => rfl⟩
  · rintro before action after _ ⟨bound, idle⟩ taken
    obtain ⟨stepped, same⟩ := calls_step config (moves_of_step config taken)
    refine ⟨max bound (stepped + 1), fun id large => ?_⟩
    have apart : id ≠ stepped := by
      intro same
      subst same
      omega
    rw [same id apart]
    exact idle id (by omega)

theorem idle_call (config : BridgeConfig F) {state : Bridge F}
    (reached : Reachable (machine config) state) (id : CallId) :
    ∃ spare, id ≠ spare ∧ state.calls spare = .idle := by
  obtain ⟨bound, idle⟩ := idle_from config reached
  exact ⟨bound + id + 1, Nat.ne_of_lt (Nat.lt_succ_of_le (Nat.le_add_left id bound)),
    idle _ (Nat.le_succ_of_le (Nat.le_add_right bound id))⟩

def StaysApart (config : BridgeConfig F) (state : Bridge F) : Prop :=
  StallsApart state ∧ ∀ id nodeId alertId status reasons after,
    step config state (.sendAlertAck id nodeId alertId status reasons) = some after →
      StallsApart after

theorem staysApart_iff (config : BridgeConfig F) {state : Bridge F}
    (reached : Reachable (machine config) state) : StaysApart config state ↔ LockMoves state := by
  obtain ⟨locked, reaping⟩ := locks_invariant config reached
  constructor
  · rintro ⟨_, apart⟩ id nodeId conn out delivering
    by_contra full
    rw [Bool.not_eq_false] at full
    obtain ⟨spare, free, idle⟩ := idle_call config reached id
    -- The alert of another node waits for the lock.
    have alone := apart spare (nodeId ++ "'") "" .accepted [] _ (by
      simp only [step, idle]
      rfl)
    have lock := (locked id nodeId conn out delivering).1
    have same := alone (.call spare) .connections (.call id) (nodeId ++ "'") nodeId
      (by simp [awaitsLock, setCall, callAwaits]) (by simp [heldBy, setCall, lock])
      (by simp [awaitsRoom, setCall, free, delivering, full])
    have lengths := congrArg String.length same
    simp at lengths
  · intro moves
    refine ⟨moves.stallsApart reaping, fun id nodeId alertId status reasons after taken => ?_⟩
    have moved := moves_of_step config taken
    have later := queueLocked_step config reaping moved
    exact (lockMoves_step config moves locked rfl moved).stallsApart later

/-- In a run no operation of a node ever waits for a lock whose holder waits for room in the
channel of another node, nor would it once one more alert is to be acknowledged, exactly if no
step of the run stalls. -/
theorem stays_apart_iff (config : BridgeConfig F) {trace : Trace (Bridge F) (Action F)}
    {state : Bridge F} (run : Run (machine config) trace state) :
    (∀ reached ∈ visited trace state, StaysApart config reached) ↔
      Meets (fun _ before action => before.stalls action = false) trace := by
  have apart : ∀ {trace : Trace (Bridge F) (Action F)} {state : Bridge F},
      Run (machine config) trace state → (StaysApart config state ↔ LockMoves state) :=
    fun run => staysApart_iff config ⟨_, run⟩
  induction run with
  | start =>
      refine ⟨fun _ => trivial, fun _ reached member => ?_⟩
      rw [List.mem_singleton.mp member, apart Run.start]
      intro id nodeId conn out delivering
      cases delivering
  | @next trace before after action earlier taken ih =>
      have moved := moves_of_step config taken
      have locked := (locks_invariant config ⟨trace, earlier⟩).1
      rw [visited_cons, List.forall_mem_cons, apart (earlier.next taken)]
      constructor
      · rintro ⟨moves, rest⟩
        have clear : before.stalls action = false := by
          rw [← Bool.not_eq_true]
          exact fun stalled => not_lockMoves_of_stalls config stalled moved moves
        exact ⟨clear, ih.mp rest⟩
      · rintro ⟨clear, rest⟩
        have stays := ih.mpr rest
        have held := (apart earlier).mp (stays before List.mem_cons_self)
        exact ⟨lockMoves_step config held locked clear moved, stays⟩

theorem stays_apart_iff_registerThenTask :
    ∃ (state : Bridge Float) (trace : Trace (Bridge Float) (Action Float)),
      (state.conns 0).write.attempts.length = 2 ∧
        ∀ reached ∈ visited trace state, StaysApart plainConfig reached := by
  have run : Run (machine plainConfig) _ _ := replay_reachable registerThenTask rfl
  exact ⟨_, _, rfl, (stays_apart_iff plainConfig run).mpr (by decide)⟩

structure Unread (state : Bridge F) (nodeId : String) (conn : ConnId) (count : Nat) : Prop where
  free : state.connectionsLock = none
  entered : state.connections.lookup nodeId = some conn
  alive : (state.conns conn).write.closed = false
  capacity : (state.conns conn).write.capacity = 64
  held : (state.conns conn).write.buffer.length = count

theorem reachable_step (config : BridgeConfig F) {before after : Bridge F}
    (reached : Reachable (machine config) before) (action : Action F)
    (taken : step config before action = some after) : Reachable (machine config) after :=
  reached.next taken

theorem alert_begun (config : BridgeConfig F) {state : Bridge F} {nodeId : String}
    {conn : ConnId} (reached : Reachable (machine config) state)
    (free : state.connectionsLock = none)
    (found : state.connections.lookup nodeId = some conn) :
    ∃ call msg, Reachable (machine config)
      ({ state with connectionsLock := some call }.setCall call
        (.delivering nodeId conn ⟨none, msg⟩)) := by
  obtain ⟨call, _, idle⟩ := idle_call config reached 0
  have asked := reachable_step config reached (.sendAlertAck call nodeId "" .accepted []) (by
    simp only [step, idle]
    rfl)
  refine ⟨call, makeAlertAck state.systemTime config.nodeId nodeId "" .accepted [], ?_⟩
  apply reachable_step config asked (.advance call)
  simp [step, stepCall, setCall, free, found]

theorem unread_next (config : BridgeConfig F) {state : Bridge F} {nodeId : String}
    {conn : ConnId} {count : Nat} (reached : Reachable (machine config) state)
    (unread : Unread state nodeId conn count) (room : count < 64) :
    ∃ after, Reachable (machine config) after ∧ Unread after nodeId conn (count + 1) := by
  obtain ⟨call, msg, begun⟩ := alert_begun config reached unread.free unread.entered
  have fits : (state.conns conn).write.buffer.length < (state.conns conn).write.capacity := by
    rw [unread.held, unread.capacity]
    exact room
  obtain ⟨write, sent, alive, capacity, longer⟩ :=
    Channel.send_fits unread.alive fits (⟨none, msg⟩ : Outgoing F)
  have pushed := reachable_step config begun (.advance call) (by
    simp only [step, stepCall, setCall, Function.update_self, sent]
    rfl)
  refine ⟨_, pushed, ?_⟩
  constructor
  · rfl
  · exact unread.entered
  · simpa [setCall, setWrite, setConn] using alive
  · simpa [setCall, setWrite, setConn, unread.capacity] using capacity
  · simpa [setCall, setWrite, setConn, unread.held] using longer

theorem unread_full (config : BridgeConfig F) {state : Bridge F} {nodeId : String}
    {conn : ConnId} {count : Nat} (reached : Reachable (machine config) state)
    (unread : Unread state nodeId conn count) (more : Nat) (room : count + more ≤ 64) :
    ∃ after, Reachable (machine config) after ∧ Unread after nodeId conn (count + more) := by
  induction more with
  | zero => exact ⟨state, reached, unread⟩
  | succ more ih =>
      obtain ⟨earlier, here, filled⟩ := ih (by omega)
      rw [← Nat.add_assoc]
      exact unread_next config here filled (by omega)

/-- A node registers and stops reading. The 63 alerts after its ack fill its channel, the
next one holds the lock, and an alert of another node waits for it. -/
theorem stalled_node_blocks :
    ¬ ∀ state : Bridge Float, Reachable (machine plainConfig) state → StallsApart state := by
  intro apart
  obtain ⟨state, reached, full⟩ := unread_full plainConfig
    ⟨_, replay_reachable (.receive 0 (registrationOf "a") :: List.replicate 8 (.proceed 0)) rfl⟩
    (⟨rfl, rfl, rfl, rfl, rfl⟩ : Unread _ "a" 0 1) 63 (by omega)
  obtain ⟨call, msg, begun⟩ := alert_begun plainConfig reached full.free full.entered
  have stays := (staysApart_iff plainConfig begun).mp
    ⟨apart _ begun, fun id nodeId alertId status reasons after taken =>
      apart after (reachable_step plainConfig begun _ taken)⟩
  have room := stays.room_of_connect
  simp [Channel.full, full.alive, full.capacity, full.held] at room

end PeatSapient.Bridge
