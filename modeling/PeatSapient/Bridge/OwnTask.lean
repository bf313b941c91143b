import PeatSapient.Bridge.Moves

/-! What a call of `send_task` leaves behind of its own task. The correlation is inserted
before the queue is drained and the task enqueued, and the ids that these two remove are
taken out of the correlations afterwards, whichever entry they belonged to. -/

namespace PeatSapient.Bridge

open HashMap Mpsc Execution

variable {F : Type}

/-- The steps of the call itself, and those of the writer tasks and of the receiver, which
make room in the channels. -/
def runsOnly (id : CallId) : Action F → Bool
  | .advance other => decide (other = id)
  | .writerTakes _ | .writerWrote _ _ | .consume => true
  | _ => false

structure TaskCorrelated (before after : Bridge F) (id : CallId) (task : TaskCall F)
    (command : String) : Prop where
  queued : ∃ older, after.taskQueue.queueFor task.nodeId =
    older ++ [⟨⟨some id, task.msg⟩, task.taskId, before.clock, before.taskQueue.defaultTtl⟩]
  recorded : after.taskCommands.lookup task.taskId = some command

def unexpired (state : Bridge F) (nodeId : String) : List (QueuedTask (Outgoing F)) :=
  (state.taskQueue.queueFor nodeId).filter fun task => !task.expired state.clock

/-- No earlier entry of the same id is removed by the call: none has expired, in any queue,
and the one it may evict has another id. -/
structure EarlierSpared (state : Bridge F) (nodeId taskId : String) : Prop where
  fresh : ∀ other, ∀ task ∈ state.taskQueue.queueFor other, task.taskId = taskId →
    task.expired state.clock = false
  kept : ∀ oldest rest, state.unexpired nodeId = oldest :: rest →
    state.taskQueue.maxDepth ≤ (state.unexpired nodeId).length → oldest.taskId ≠ taskId

/-- The id of the call is among those it reaps exactly if an earlier entry is removed. -/
theorem reaped_iff (state : Bridge F) (id : CallId) (task : TaskCall F) :
    task.taskId ∈ state.reaped id task ↔ ¬ state.EarlierSpared task.nodeId task.taskId := by
  have evicts : ∀ oldest : String,
      oldest ∈ ((state.taskQueue.drainExpired state.clock).2.enqueue state.clock task.nodeId
        task.taskId ⟨some id, task.msg⟩).1.toList ↔
      ∃ first rest, state.unexpired task.nodeId = first :: rest ∧
        state.taskQueue.maxDepth ≤ (state.unexpired task.nodeId).length ∧
          first.taskId = oldest := by
    intro oldest
    rw [Option.mem_toList, TaskQueue.evicted_iff, TaskQueue.drain_maxDepth]
    simp only [TaskQueue.queueFor_drain]
    constructor
    · rintro ⟨first, named, full, split⟩
      exact ⟨first, _, split, full, named⟩
    · rintro ⟨first, rest, split, full, named⟩
      refine ⟨first, named, full, ?_⟩
      have tail : (state.taskQueue.drainExpired state.clock).2.keptFor task.nodeId = rest := by
        have held : state.taskQueue.maxDepth ≤ (first :: rest).length := split ▸ full
        change (state.taskQueue.queueFor task.nodeId).filter _ = _ at split
        simp only [TaskQueue.keptFor, TaskQueue.drain_maxDepth, TaskQueue.queueFor_drain, split,
          if_pos held, List.tail_cons]
      rw [tail]
      exact split
  unfold reaped
  rw [List.mem_append, TaskQueue.drained_iff, evicts]
  constructor
  · rintro (⟨other, entry, member, expired, named⟩ | ⟨first, rest, split, full, named⟩) spared
    · have fresh := spared.fresh other entry member named
      rw [expired] at fresh
      cases fresh
    · exact spared.kept first rest split full named
  · intro removed
    by_contra kept
    obtain ⟨noneExpired, noneEvicted⟩ := not_or.mp kept
    apply removed
    constructor
    · intro other entry member named
      cases expired : entry.expired state.clock with
      | false => rfl
      | true => exact absurd ⟨other, entry, member, expired, named⟩ noneExpired
    · intro first rest split full named
      exact noneEvicted ⟨first, rest, split, full, named⟩

theorem queued_last (state : Bridge F) (id : CallId) (task : TaskCall F) :
    ∃ older, (state.queued id task).queueFor task.nodeId =
      older ++ [⟨⟨some id, task.msg⟩, task.taskId, state.clock, state.taskQueue.defaultTtl⟩] := by
  unfold queued
  rw [TaskQueue.queueFor_enqueue, if_pos rfl]
  exact ⟨_, rfl⟩

def Progress (start : Bridge F) (id : CallId) (task : TaskCall F) (command : String)
    (state : Bridge F) : Prop :=
  match state.calls id with
  | .inserting current =>
      current = task ∧ state.taskQueue = start.taskQueue ∧ state.clock = start.clock
  | .queueing current =>
      current = task ∧ state.taskQueue = start.taskQueue ∧ state.clock = start.clock ∧
        state.taskCommands.lookup task.taskId = some command
  | .reaping current removed =>
      current = task ∧ removed = start.reaped id task ∧
        state.taskQueue = start.queued id task ∧
          state.taskCommands.lookup task.taskId = some command
  | .connecting _ | .delivering _ _ _ | .returned _ =>
      state.taskQueue = start.queued id task ∧
        state.taskCommands.lookup task.taskId =
          if task.taskId ∈ start.reaped id task then none else some command
  | _ => False

theorem Progress.congr {start before after : Bridge F} {id : CallId} {task : TaskCall F}
    {command : String} (progress : Progress start id task command before)
    (calls : after.calls = before.calls) (queue : after.taskQueue = before.taskQueue)
    (commands : after.taskCommands = before.taskCommands) (clock : after.clock = before.clock) :
    Progress start id task command after := by
  unfold Progress at progress ⊢
  rw [calls, queue, commands, clock]
  exact progress

variable [FloatOps F]

theorem progress_step (config : BridgeConfig F) {start before after : Bridge F} {id : CallId}
    {task : TaskCall F} {command : String} (given : task.commandId = some command)
    {action : Action F} (own : runsOnly id action = true)
    (progress : Progress start id task command before)
    (moved : Moves config before action after) : Progress start id task command after := by
  have sameCall : ∀ other : CallId, runsOnly (F := F) id (.advance other) = true → other = id :=
    fun other only => of_decide_eq_true only
  cases moved with
  | writerTakes | writerWrote | writerFailed | consume =>
      exact progress.congr rfl rfl rfl rfl
  | insert other current stored here supplied =>
      obtain rfl := sameCall other own
      simp only [Progress, here] at progress
      obtain ⟨rfl, queue, clock⟩ := progress
      rw [given] at supplied
      cases supplied
      simp [Progress, setCall, queue, clock]
  | skipInsert other current here missing =>
      obtain rfl := sameCall other own
      simp only [Progress, here] at progress
      obtain ⟨rfl, _, _⟩ := progress
      rw [given] at missing
      cases missing
  | queue other current here free clean =>
      obtain rfl := sameCall other own
      simp only [Progress, here] at progress
      obtain ⟨rfl, queue, clock, stored⟩ := progress
      have nothing : start.reaped other current = [] := by
        rw [← clean]
        simp only [reaped, queue, clock]
      simp [Progress, setCall, queued, queue, clock, stored, nothing]
  | queueReap other current here free stale =>
      obtain rfl := sameCall other own
      simp only [Progress, here] at progress
      obtain ⟨rfl, queue, clock, stored⟩ := progress
      simp [Progress, setCall, reaped, queued, queue, clock, stored]
  | callReap other current removed here =>
      obtain rfl := sameCall other own
      simp only [Progress, here] at progress
      obtain ⟨rfl, rfl, queue, stored⟩ := progress
      simp [Progress, setCall, queue, lookup_eraseAll, stored]
  | absent other current here free missing =>
      obtain rfl := sameCall other own
      simp only [Progress, here] at progress
      simpa [Progress, setCall] using progress
  | connect other current conn here free found =>
      obtain rfl := sameCall other own
      simp only [Progress, here] at progress
      simpa [Progress, setCall] using progress
  | alertAbsent other nodeId msg here | alertConnect other nodeId msg conn here =>
      obtain rfl := sameCall other own
      simp [Progress, here] at progress
  | deliver other nodeId conn out write here sent =>
      obtain rfl := sameCall other own
      simp only [Progress, here] at progress
      simpa [Progress, setCall, setWrite, setConn] using progress
  | _ => cases own

/-- A call of `send_task` that has run to its end, with no other operation in between, has
left its task correlated exactly if no earlier entry of that id was removed by it. -/
theorem own_task_correlated_iff (config : BridgeConfig F) {state after : Bridge F}
    {id : CallId} {nodeId taskId command : String} {msg : SapientMessage F}
    (valid : extractTaskId msg = .ok taskId) {actions : List (Action F)}
    (alone : ∀ action ∈ actions, runsOnly id action = true)
    (ran : follow (machine config) state (.sendTask id nodeId msg (some command) :: actions) =
      some after)
    {result : Except SapientError Unit} (returned : after.calls id = .returned result) :
    TaskCorrelated state after id ⟨nodeId, msg, some command, taskId⟩ command ↔
      state.EarlierSpared nodeId taskId := by
  obtain ⟨started, began, later⟩ := follow_cons ran
  have first : Progress state id ⟨nodeId, msg, some command, taskId⟩ command started := by
    change step config state (.sendTask id nodeId msg (some command)) = some started at began
    have moved := moves_of_step config began
    cases moved with
    | startTask _ _ _ _ here => simp [Progress, setCall, startSendTask, valid]
  have finished := follow_invariant (fun action => runsOnly id action = true)
    (Progress state id ⟨nodeId, msg, some command, taskId⟩ command)
    (fun before action after own progress taken =>
      progress_step config rfl own progress (moves_of_step config taken)) alone first later
  simp only [Progress, returned] at finished
  obtain ⟨queue, commands⟩ := finished
  have member := reaped_iff state id ⟨nodeId, msg, some command, taskId⟩
  constructor
  · intro correlated
    by_contra removed
    have recorded := correlated.recorded
    rw [commands, if_pos (member.mpr removed)] at recorded
    cases recorded
  · intro spared
    constructor
    · rw [queue]
      exact queued_last state id ⟨nodeId, msg, some command, taskId⟩
    · rw [commands, if_neg fun removed => member.mp removed spared]

def sendAlone (id : CallId) : List (Action Float) :=
  .sendTask id "n" (taskMessage "t") (some "cmd") :: List.replicate 3 (.advance id)

/-- The same task is sent again while its first copy waits. -/
theorem own_task_correlated_iff_first :
    ∃ state after : Bridge Float, (state.taskQueue.queueFor "n").length = 1 ∧
      TaskCorrelated state after 1 ⟨"n", taskMessage "t", some "cmd", "t"⟩ "cmd" := by
  let first : QueuedTask (Outgoing Float) := ⟨⟨some 0, taskMessage "t"⟩, "t", 0, 300000000000⟩
  obtain ⟨state, after, clock, depth, queues, ran, returned⟩ :
      ∃ state after : Bridge Float,
        state.clock = 299000000000 ∧ state.taskQueue.maxDepth = 32 ∧
        state.taskQueue.queues = (∅ : Table String _).insert "n" [first] ∧
        follow (machine plainConfig) state (sendAlone 1) = some after ∧
        after.calls 1 = .returned (.ok ()) :=
    ⟨((replay (machine plainConfig) ([], (machine plainConfig).init)
      (sendAlone 0 ++ [.tick 299000000000 0])).get rfl).2, _, rfl, rfl, rfl, rfl, rfl⟩
  have alone : ∀ action ∈ List.replicate 3 (Action.advance 1 : Action Float),
      runsOnly 1 action = true := by decide
  have waiting : ∀ nodeId,
      state.taskQueue.queueFor nodeId = if nodeId = "n" then [first] else [] := by
    intro nodeId
    unfold TaskQueue.queueFor
    rw [queues, lookup_insert_eq]
    split <;> rfl
  have spared : state.EarlierSpared "n" "t" := by
    constructor
    · intro other task member _
      rw [waiting] at member
      split at member
      · rw [List.mem_singleton.mp member, clock]
        rfl
      · cases member
    · intro oldest rest _ full
      have short := List.length_filter_le (fun task => !task.expired state.clock)
        (state.taskQueue.queueFor "n")
      rw [waiting, if_pos rfl] at short
      rw [depth] at full
      simp [unexpired, waiting] at full short
      omega
  exact ⟨state, after, by rw [waiting]; rfl,
    (own_task_correlated_iff plainConfig rfl alone ran returned).mpr spared⟩

/-- The same task is sent again once the first copy has expired. -/
theorem resent_task_uncorrelated :
    ¬ ∀ (state after : Bridge Float) (id : CallId) (nodeId taskId command : String)
        (msg : SapientMessage Float) (actions : List (Action Float))
        (result : Except SapientError Unit),
      Reachable (machine plainConfig) state → extractTaskId msg = .ok taskId →
      (∀ action ∈ actions, runsOnly id action = true) →
      follow (machine plainConfig) state (.sendTask id nodeId msg (some command) :: actions) =
        some after →
      after.calls id = .returned result →
      TaskCorrelated state after id ⟨nodeId, msg, some command, taskId⟩ command := by
  intro correlated
  have sent := correlated _ _ 1 "n" "t" "cmd" (taskMessage "t") (List.replicate 4 (.advance 1)) _
    ⟨_, replay_reachable (sendAlone 0 ++ [.tick 301000000000 301000000000]) rfl⟩ rfl
    (by decide) rfl rfl
  have recorded := sent.recorded
  revert recorded
  decide

end PeatSapient.Bridge
