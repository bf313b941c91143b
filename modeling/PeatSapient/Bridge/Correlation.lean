import PeatSapient.Bridge.Moves

/-! The correlation map never leaks: each of its keys belongs to a pending task,
or to an operation that has still to enqueue the task or to remove the key. -/

namespace PeatSapient.Bridge

open HashMap Mpsc Execution

variable {F : Type}

/-- A call that has inserted its command and not yet enqueued, or one that is
about to remove the correlation. -/
def callOwes : ApiCall F → String → Prop
  | .queueing task, taskId => task.taskId = taskId ∧ task.commandId.isSome = true
  | .reaping _ removed, taskId => taskId ∈ removed
  | _, _ => False

def stageOwes : Stage F → String → Prop
  | .reaping _ expired, taskId => taskId ∈ expired
  | .correlating _ acked _ _ cleared, taskId => acked = taskId ∧ cleared = true
  | _, _ => False

def Pending (state : Bridge F) (taskId : String) : Prop :=
  ∃ nodeId, ∃ task ∈ state.taskQueue.queueFor nodeId, task.taskId = taskId

def Accounted (state : Bridge F) (taskId : String) : Prop :=
  Pending state taskId ∨ (∃ id, callOwes (state.calls id) taskId) ∨
    ∃ id, stageOwes (state.conns id).stage taskId

theorem mem_iff_lookup (table : Table String String) (key : String) :
    key ∈ table ↔ table.lookup key ≠ none := by
  rw [← AList.lookup_isSome, Option.isSome_iff_ne_none]

/-- What is accounted for stays so when the queue only keeps what was there and
no operation gives up what it owes. -/
theorem Accounted.frame {before after : Bridge F} {taskId : String}
    (accounted : Accounted before taskId)
    (queue : Pending before taskId → Accounted after taskId)
    (calls : ∀ id, callOwes (before.calls id) taskId → callOwes (after.calls id) taskId)
    (stages : ∀ id, stageOwes (before.conns id).stage taskId →
      stageOwes (after.conns id).stage taskId) : Accounted after taskId := by
  rcases accounted with pending | ⟨id, owed⟩ | ⟨id, owed⟩
  · exact queue pending
  · exact Or.inr (Or.inl ⟨id, calls id owed⟩)
  · exact Or.inr (Or.inr ⟨id, stages id owed⟩)

theorem calls_update {calls : CallId → ApiCall F} {id : CallId} (call : ApiCall F)
    {taskId : String} (kept : callOwes (calls id) taskId → callOwes call taskId)
    (other : CallId) (owed : callOwes (calls other) taskId) :
    callOwes (Function.update calls id call other) taskId := by
  by_cases same : other = id
  · subst same
    simpa using kept owed
  · simpa [same] using owed

theorem stages_update {conns : ConnId → Connection F} {id : ConnId} (conn : Connection F)
    {taskId : String} (kept : stageOwes (conns id).stage taskId → stageOwes conn.stage taskId)
    (other : ConnId) (owed : stageOwes (conns other).stage taskId) :
    stageOwes (Function.update conns id conn other).stage taskId := by
  by_cases same : other = id
  · subst same
    simpa using kept owed
  · simpa [same] using owed

theorem Accounted.setCall {before : Bridge F} {taskId : String}
    (accounted : Accounted before taskId) (id : CallId) (call : ApiCall F)
    (quiet : ¬ callOwes (before.calls id) taskId) :
    Accounted (before.setCall id call) taskId :=
  accounted.frame Or.inl (calls_update call fun owed => absurd owed quiet)
    fun _ owed => owed

theorem Accounted.setConn {before : Bridge F} {taskId : String}
    (accounted : Accounted before taskId) (id : ConnId) (conn : Connection F)
    (kept : stageOwes (before.conns id).stage taskId → stageOwes conn.stage taskId) :
    Accounted (before.setConn id conn) taskId :=
  accounted.frame Or.inl (fun _ owed => owed) (stages_update conn kept)

theorem Accounted.congr {before after : Bridge F} {taskId : String}
    (accounted : Accounted before taskId) (queue : after.taskQueue = before.taskQueue)
    (calls : after.calls = before.calls) (conns : after.conns = before.conns) :
    Accounted after taskId := by
  unfold Accounted Pending at *
  rw [queue, calls, conns]
  exact accounted

theorem pending_enqueue {queue : TaskQueue (Outgoing F)} (now : Nat)
    (nodeId taskId : String) (msg : Outgoing F) {other : String} {task : QueuedTask (Outgoing F)}
    (member : task ∈ queue.queueFor other) :
    task ∈ (queue.enqueue now nodeId taskId msg).2.queueFor other ∨
      (queue.enqueue now nodeId taskId msg).1 = some task.taskId := by
  rw [TaskQueue.queueFor_enqueue]
  by_cases same : other = nodeId
  · subst same
    cases evicted : (queue.enqueue now other taskId msg).1 with
    | none =>
        left
        rw [TaskQueue.kept_of_none queue now other taskId msg evicted]
        simp [member]
    | some oldId =>
        obtain ⟨oldest, named, _, shape⟩ := (TaskQueue.evicted_iff _ _ _ _ _ _).mp evicted
        rw [shape] at member
        rcases List.mem_cons.mp member with gone | kept
        · right
          rw [gone, named]
        · left
          simp [kept]
  · left
    simpa [same] using member

theorem pending_drain {queue : TaskQueue (Outgoing F)} (now : Nat) {other : String}
    {task : QueuedTask (Outgoing F)} (member : task ∈ queue.queueFor other) :
    task ∈ (queue.drainExpired now).2.queueFor other ∨
      task.taskId ∈ (queue.drainExpired now).1 := by
  by_cases old : task.expired now = true
  · right
    exact (TaskQueue.drained_iff queue now task.taskId).mpr ⟨other, task, member, old, rfl⟩
  · left
    rw [TaskQueue.queueFor_drain]
    simp [member, old]

theorem pending_queued {state : Bridge F} (id : CallId) (task : TaskCall F) {taskId : String}
    (pending : Pending state taskId) :
    (∃ nodeId, ∃ entry ∈ (state.queued id task).queueFor nodeId, entry.taskId = taskId) ∨
      taskId ∈ state.reaped id task := by
  obtain ⟨nodeId, entry, member, rfl⟩ := pending
  rcases pending_drain state.clock member with kept | drained
  · rcases pending_enqueue state.clock task.nodeId task.taskId ⟨some id, task.msg⟩ kept
      with stays | evicted
    · exact Or.inl ⟨nodeId, entry, stays, rfl⟩
    · right
      simp [reaped, evicted]
  · right
    simp [reaped, drained]

theorem own_pending (state : Bridge F) (id : CallId) (task : TaskCall F) :
    ∃ entry ∈ (state.queued id task).queueFor task.nodeId, entry.taskId = task.taskId := by
  simp [queued, TaskQueue.queueFor_enqueue]

theorem pending_ack {state : Bridge F} (nodeId acked : String) {taskId : String}
    (pending : Pending state taskId) :
    (∃ other, ∃ entry ∈ (state.taskQueue.ack nodeId acked).queueFor other,
        entry.taskId = taskId) ∨
      (acked = taskId ∧
        ((state.taskQueue.queueFor nodeId).any fun task => task.taskId == acked) = true) := by
  obtain ⟨other, entry, member, rfl⟩ := pending
  by_cases hit : other = nodeId ∧ entry.taskId = acked
  · right
    obtain ⟨here, named⟩ := hit
    subst here
    exact ⟨named.symm, List.any_eq_true.mpr ⟨entry, member, by simp [named]⟩⟩
  · left
    refine ⟨other, entry, ?_, rfl⟩
    rw [TaskQueue.queueFor_ack]
    by_cases here : other = nodeId
    · have different : entry.taskId ≠ acked := fun named => hit ⟨here, named⟩
      subst here
      simp [member, different]
    · simpa [here] using member

/-- A call enqueues its task: it no longer owes that, and owes what it is to reap. -/
theorem accounted_queued {state after : Bridge F} {id : CallId} {task : TaskCall F}
    {call : ApiCall F} {taskId : String} (accounted : Accounted state taskId)
    (here : state.calls id = .queueing task) (queue : after.taskQueue = state.queued id task)
    (calls : after.calls = Function.update state.calls id call)
    (conns : after.conns = state.conns)
    (owes : taskId ∈ state.reaped id task → callOwes call taskId) :
    Accounted after taskId := by
  by_cases own : taskId = task.taskId
  · left
    rw [Pending, queue, own]
    exact ⟨task.nodeId, own_pending state id task⟩
  · refine accounted.frame (fun pending => ?_) (fun other owed => ?_) (fun other owed => ?_)
    · rcases pending_queued id task pending with kept | removed
      · left
        rw [Pending, queue]
        exact kept
      · refine Or.inr (Or.inl ⟨id, ?_⟩)
        rw [calls, Function.update_self]
        exact owes removed
    · rw [calls]
      refine calls_update call (fun owed => ?_) other owed
      simp only [here, callOwes] at owed
      exact absurd owed.1.symm own
    · rw [conns]
      exact owed

theorem accounted_drained {state after : Bridge F} {id : ConnId} {msg : SapientMessage F}
    {conn : Connection F} {taskId : String} (accounted : Accounted state taskId)
    (here : (state.conns id).stage = .snapshotting msg)
    (queue : after.taskQueue = (state.taskQueue.drainExpired state.clock).2)
    (calls : after.calls = state.calls)
    (conns : after.conns = Function.update state.conns id conn)
    (owes : taskId ∈ (state.taskQueue.drainExpired state.clock).1 →
      stageOwes conn.stage taskId) : Accounted after taskId := by
  refine accounted.frame (fun pending => ?_) (fun other owed => ?_) (fun other owed => ?_)
  · obtain ⟨nodeId, entry, listed, rfl⟩ := pending
    rcases pending_drain state.clock listed with kept | drained
    · left
      rw [Pending, queue]
      exact ⟨nodeId, entry, kept, rfl⟩
    · refine Or.inr (Or.inr ⟨id, ?_⟩)
      rw [conns, Function.update_self]
      exact owes drained
  · rw [calls]
    exact owed
  · rw [conns]
    exact stages_update conn (by simp [here, stageOwes]) other owed

variable [FloatOps F]

theorem accounted_call (config : BridgeConfig F) {state after : Bridge F} {id : CallId}
    (held : ∀ taskId ∈ state.taskCommands, Accounted state taskId)
    (moved : Moves config state (.advance id) after) :
    ∀ taskId ∈ after.taskCommands, Accounted after taskId := by
  intro taskId member
  cases moved with
  | skipInsert id task here missing
  | absent id task here free missing
  | alertAbsent id nodeId msg here free missing =>
      exact (held taskId member).setCall id _ (by simp [here, callOwes])
  | connect id task conn here free found
  | alertConnect id nodeId msg conn here free found =>
      exact Accounted.setCall ((held taskId member).congr rfl rfl rfl) id _
        (by simp [here, callOwes])
  | insert id task command here given =>
      -- A new correlation is owed by the call that has not enqueued yet.
      by_cases own : taskId = task.taskId
      · refine Or.inr (Or.inl ⟨id, ?_⟩)
        simp [setCall, callOwes, own, given]
      · have older : taskId ∈ state.taskCommands := by
          rw [mem_iff_lookup] at member ⊢
          simpa [setCall, own] using member
        exact Accounted.setCall ((held taskId older).congr rfl rfl rfl) id _
          (by simp [here, callOwes])
  | queue id task here free clean =>
      exact accounted_queued (held taskId member) here rfl rfl rfl fun removed => by
        simp [clean] at removed
  | queueReap id task here free stale =>
      exact accounted_queued (held taskId member) here rfl rfl rfl fun removed => removed
  | callReap id task removed here =>
      -- What was owed has just been erased, so only the others are left.
      obtain ⟨survives, older⟩ := mem_eraseAll.mp member
      exact Accounted.setCall ((held taskId older).congr rfl rfl rfl) id _
        (by simpa [here, callOwes] using survives)
  | deliver id nodeId conn out write here sent =>
      have freed : Accounted { state with connectionsLock := none } taskId :=
        (held taskId member).congr rfl rfl rfl
      have written := freed.setConn conn { state.conns conn with write := write }
        fun owed => owed
      exact written.setCall id _ (by simp [setConn, here, callOwes])

theorem accounted_conn (config : BridgeConfig F) {state after : Bridge F} {id : ConnId}
    (held : ∀ taskId ∈ state.taskCommands, Accounted state taskId)
    (moved : Moves config state (.proceed id) after) :
    ∀ taskId ∈ after.taskCommands, Accounted after taskId := by
  intro taskId member
  cases moved with
  | register id msg here free
  | locate id msg here
  | replayed id msg here
  | route id msg position update limiter here routed
  | reject id msg position failure limiter here routed
  | upsert id update nodeId capability here writes
  | pass id update here silent other
  | emit id update updates here sent
  | disconnect id nodeId here free
  | unregister id nodeId here
  | announce id nodeId updates here sent
  | acknowledgeRegistration id msg write here sent
  | replay id msg out rest write here sent =>
      exact Accounted.setConn ((held taskId member).congr rfl rfl rfl) id _
        (by simp [here, stageOwes])
  | snapshot id msg here free clean =>
      exact accounted_drained (held taskId member) here rfl rfl rfl fun expired => by
        simp [clean] at expired
  | drain id msg here free stale =>
      exact accounted_drained (held taskId member) here rfl rfl rfl fun expired => expired
  | connReap id msg expired here =>
      obtain ⟨survives, older⟩ := mem_eraseAll.mp member
      exact Accounted.setConn ((held taskId older).congr rfl rfl rfl) id _
        (by simpa [here, stageOwes] using survives)
  | ackTask id nodeId acked command status reasons here free =>
      refine (held taskId member).frame (fun pending => ?_) (fun _ owed => owed)
        (stages_update _ (by simp [here, stageOwes]))
      -- What the ack has emptied is owed by the connection until it correlates.
      rcases pending_ack nodeId acked pending with kept | cleared
      · exact Or.inl kept
      · refine Or.inr (Or.inr ⟨id, ?_⟩)
        simpa [setStage, setConn, stageOwes] using cleared
  | correlate id nodeId acked status reasons cleared here =>
      obtain ⟨survives, older⟩ := AList.mem_erase.mp member
      exact Accounted.setConn ((held taskId older).congr rfl rfl rfl) id _
        (by simp [here, stageOwes, survives.symm])

theorem accounted_step (config : BridgeConfig F) {state after : Bridge F} {action : Action F}
    (held : ∀ taskId ∈ state.taskCommands, Accounted state taskId)
    (moved : Moves config state action after) :
    ∀ taskId ∈ after.taskCommands, Accounted after taskId := by
  intro taskId member
  have whole := moved
  cases moved with
  | insert | skipInsert | queue | queueReap | callReap | absent | connect | alertAbsent
  | alertConnect | deliver =>
      exact accounted_call config held whole taskId member
  | register | acknowledgeRegistration | snapshot | drain | connReap | replayed | replay
  | locate | route | reject | upsert | ackTask | pass | correlate | emit | disconnect
  | unregister | announce =>
      exact accounted_conn config held whole taskId member
  | tick | consume | dropReceiver =>
      exact (held taskId member).congr rfl rfl rfl
  | startTask id nodeId msg commandId here
  | startAlert id nodeId alertId status reasons here =>
      exact (held taskId member).setCall id _ (by simp [here, callOwes])
  | receive id msg here
  | hangUp id here =>
      exact Accounted.setConn ((held taskId member).congr rfl rfl rfl) id _
        (by simp [here, stageOwes])
  | writerTakes id out write taken
  | writerWrote id
  | writerFailed id =>
      exact (held taskId member).setConn id _ (fun owed => owed)

structure Quiescent (state : Bridge F) : Prop where
  calls : ∀ id, state.calls id = .idle ∨ ∃ result, state.calls id = .returned result
  stages : ∀ id, (state.conns id).stage = .reading ∨ (state.conns id).stage = .closed

omit [FloatOps F] in
theorem Quiescent.pending {state : Bridge F} (quiescent : Quiescent state) {taskId : String}
    (accounted : Accounted state taskId) : Pending state taskId := by
  rcases accounted with pending | ⟨id, owed⟩ | ⟨id, owed⟩
  · exact pending
  · rcases quiescent.calls id with idle | ⟨result, returned⟩
    · simp [idle, callOwes] at owed
    · simp [returned, callOwes] at owed
  · rcases quiescent.stages id with reading | closed
    · simp [reading, stageOwes] at owed
    · simp [closed, stageOwes] at owed

/-- In every reachable state every correlation is accounted for, and when nothing
is going on it is the correlation of a pending task. -/
theorem correlations_accounted (config : BridgeConfig F) {state : Bridge F}
    (reached : Reachable (machine config) state) :
    (∀ taskId ∈ state.taskCommands, Accounted state taskId) ∧
      (Quiescent state → ∀ taskId ∈ state.taskCommands, Pending state taskId) := by
  have held : ∀ taskId ∈ state.taskCommands, Accounted state taskId := by
    refine reached.invariant (fun state => ∀ taskId ∈ state.taskCommands, Accounted state taskId)
      ?_ ?_
    · intro taskId member
      rw [mem_iff_lookup] at member
      simp [machine, new] at member
    · intro before action after _ held taken
      exact accounted_step config held (moves_of_step config taken)
  exact ⟨held, fun quiescent taskId member => quiescent.pending (held taskId member)⟩

def oneTask : List (Action Float) :=
  [.sendTask 0 "n" (taskMessage "t") (some "cmd"), .advance 0]

theorem correlations_accounted_oneTask :
    ∃ state : Bridge Float, "t" ∈ state.taskCommands ∧
      (∀ taskId ∈ state.taskCommands, Accounted state taskId) ∧
      (Quiescent state → ∀ taskId ∈ state.taskCommands, Pending state taskId) :=
  ⟨_, by decide, correlations_accounted plainConfig ⟨_, replay_reachable oneTask rfl⟩⟩

end PeatSapient.Bridge
