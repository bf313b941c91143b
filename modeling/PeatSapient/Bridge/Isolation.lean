import PeatSapient.Bridge.Moves

/-! What the TaskAck of one node does to the tasking of the others. Three ids meet
here: the one the connection registered, the one inside the message, and the task
id, which alone is the key of the correlations. -/

namespace PeatSapient.Bridge

open HashMap Mpsc Execution

variable {F : Type}

/-- The tasking of every node but one is as it was: its pending tasks, and the
command id each of them would be acknowledged with. -/
def OthersKept (nodeId : String) (before after : Bridge F) : Prop :=
  ∀ other, other ≠ nodeId →
    after.taskQueue.queueFor other = before.taskQueue.queueFor other ∧
      ∀ task ∈ before.taskQueue.queueFor other,
        after.taskCommands.lookup task.taskId = before.taskCommands.lookup task.taskId

def PendingAt (state : Bridge F) (nodeId taskId : String) : Prop :=
  ∃ task ∈ state.taskQueue.queueFor nodeId, task.taskId = taskId

theorem ack_kept_iff (queue : TaskQueue (Outgoing F)) (nodeId taskId other : String) :
    (queue.ack nodeId taskId).queueFor other = queue.queueFor other ↔
      (other = nodeId → ∀ task ∈ queue.queueFor other, task.taskId ≠ taskId) := by
  rw [TaskQueue.queueFor_ack]
  by_cases same : other = nodeId
  · subst same
    simp [List.filter_eq_self]
  · simp [same]

theorem erase_kept_iff (commands : Table String String) (taskId other : String) :
    (commands.erase taskId).lookup other = commands.lookup other ↔
      (other = taskId → commands.lookup taskId = none) := by
  rw [lookup_erase_eq]
  by_cases same : other = taskId
  · subst same
    simp [eq_comm]
  · simp [same]

theorem others_kept_refl {before after : Bridge F} (nodeId : String)
    (queue : after.taskQueue = before.taskQueue)
    (commands : after.taskCommands = before.taskCommands) :
    OthersKept nodeId before after :=
  fun other _ => ⟨by rw [queue], fun _ _ => by rw [commands]⟩

theorem others_kept_ack {before after : Bridge F} {nodeId sender taskId : String}
    (queue : after.taskQueue = before.taskQueue.ack sender taskId)
    (commands : after.taskCommands = before.taskCommands) :
    OthersKept nodeId before after ↔
      ∀ other, other ≠ nodeId → PendingAt before other taskId → other ≠ sender := by
  unfold OthersKept
  rw [queue, commands]
  simp only [ack_kept_iff]
  constructor
  · rintro kept other different ⟨task, member, named⟩ same
    exact (kept other different).1 same task member named
  · intro apart other different
    refine ⟨fun same task member named => ?_, fun _ _ => trivial⟩
    exact apart other different ⟨task, member, named⟩ same

theorem others_kept_erase {before after : Bridge F} {nodeId taskId : String}
    (queue : after.taskQueue = before.taskQueue)
    (commands : after.taskCommands = before.taskCommands.erase taskId) :
    OthersKept nodeId before after ↔
      ∀ other, other ≠ nodeId → PendingAt before other taskId →
        before.taskCommands.lookup taskId = none := by
  unfold OthersKept
  rw [queue, commands]
  simp only [erase_kept_iff]
  constructor
  · rintro kept other different ⟨task, member, named⟩
    exact (kept other different).2 task member named
  · intro apart other different
    refine ⟨trivial, fun task member named => ?_⟩
    exact apart other different ⟨task, member, named⟩

theorem others_kept_both {before after : Bridge F} {nodeId sender taskId : String}
    (queue : after.taskQueue = before.taskQueue.ack sender taskId)
    (commands : after.taskCommands = before.taskCommands.erase taskId) :
    OthersKept nodeId before after ↔
      ∀ other, other ≠ nodeId → PendingAt before other taskId →
        other ≠ sender ∧ before.taskCommands.lookup taskId = none := by
  unfold OthersKept
  rw [queue, commands]
  simp only [ack_kept_iff, erase_kept_iff]
  constructor
  · rintro kept other different ⟨task, member, named⟩
    obtain ⟨unacked, uncorrelated⟩ := kept other different
    exact ⟨fun same => unacked same task member named, uncorrelated task member named⟩
  · intro apart other different
    refine ⟨fun same task member named => ?_, fun task member named => ?_⟩
    · exact (apart other different ⟨task, member, named⟩).1 same
    · exact (apart other different ⟨task, member, named⟩).2

/-- Where a connection is with a TaskAck, and how many of its own steps are left. -/
inductive AckStage (msg : SapientMessage F) (taskId : String) : Nat → Stage F → Prop where
  | locating : AckStage msg taskId 5 (.locating msg)
  | routing (position : Option (TrackPosition F)) :
      AckStage msg taskId 4 (.routing msg position)
  | recording (command : Option String) (status : TaskAckStatus) (reasons : List String) :
      AckStage msg taskId 3
        (.recording (.taskAcknowledged msg.sender taskId command status reasons))
  | correlating (status : TaskAckStatus) (reasons : List String) (cleared : Bool) :
      AckStage msg taskId 2 (.correlating msg.sender taskId status reasons cleared)
  | emitting (command : Option String) (status : TaskAckStatus) (reasons : List String) :
      AckStage msg taskId 1
        (.emitting (.taskAcknowledged msg.sender taskId command status reasons))
  | reading : AckStage msg taskId 0 .reading

/-- What a step of the handling, with so many left, asks of the others' tasking. -/
def Spares (state : Bridge F) (nodeId sender taskId : String) : Nat → Prop
  | 3 => ∀ other, other ≠ nodeId → PendingAt state other taskId → other ≠ sender
  | 2 => ∀ other, other ≠ nodeId → PendingAt state other taskId →
      state.taskCommands.lookup taskId = none
  | _ => True

theorem stage_setStage (state : Bridge F) (id : ConnId) (stage : Stage F) :
    ((state.setStage id stage).conns id).stage = stage := by
  simp [setStage, setConn]

variable [FloatOps F]

/-- One step of the handling: only `recording` touches the queue, with the ack, and
only `correlating` touches the correlations, with the removal. -/
theorem ackStage_step (config : BridgeConfig F) {state after : Bridge F} {conn : ConnId}
    {msg : SapientMessage F} {ack : TaskAck} (content : msg.content = some (.taskAck ack))
    {left : Nat}
    (handling : AckStage msg (ack.taskId.getD "") (left + 1) (state.conns conn).stage)
    (taken : step config state (.proceed conn) = some after) :
    AckStage msg (ack.taskId.getD "") left (after.conns conn).stage ∧
      after.taskQueue = (if left = 2 then
        state.taskQueue.ack msg.sender (ack.taskId.getD "") else state.taskQueue) ∧
      after.taskCommands = (if left = 1 then
        state.taskCommands.erase (ack.taskId.getD "") else state.taskCommands) := by
  generalize at_ : (state.conns conn).stage = stage at handling
  simp only [step, stepConn, at_] at taken
  cases handling with
  | locating =>
      cases taken
      exact ⟨by rw [stage_setStage]; exact .routing _, rfl, rfl⟩
  | routing position =>
      simp only [routeMessage, content] at taken
      cases taken
      exact ⟨by rw [stage_setStage]; exact .recording _ _ _, rfl, rfl⟩
  | recording command status reasons =>
      simp only [record] at taken
      split at taken
      · cases taken
      · cases taken
        exact ⟨by rw [stage_setStage]; exact .correlating _ _ _, rfl, rfl⟩
  | correlating status reasons cleared =>
      cases taken
      exact ⟨by rw [stage_setStage]; exact .emitting _ _ _, rfl, rfl⟩
  | emitting command status reasons =>
      dsimp only at taken
      split at taken
      · cases taken
      · cases taken
        exact ⟨by rw [stage_setStage]; exact .reading, rfl, rfl⟩

/-- In any interleaving, each step of the handling spares the other nodes exactly
when its condition holds. -/
theorem ackStage_spares (config : BridgeConfig F) {state after : Bridge F} {conn : ConnId}
    {msg : SapientMessage F} {ack : TaskAck} (content : msg.content = some (.taskAck ack))
    {left : Nat} (nodeId : String)
    (handling : AckStage msg (ack.taskId.getD "") (left + 1) (state.conns conn).stage)
    (taken : step config state (.proceed conn) = some after) :
    OthersKept nodeId state after ↔
      Spares state nodeId msg.sender (ack.taskId.getD "") (left + 1) := by
  obtain ⟨_, queue, commands⟩ := ackStage_step config content handling taken
  match left with
  | 0 => exact iff_of_true (others_kept_refl nodeId queue commands) trivial
  | 1 => exact others_kept_erase queue commands
  | 2 => exact others_kept_ack queue commands
  | more + 3 =>
      have quiet : ¬ more + 3 = 2 ∧ ¬ more + 3 = 1 := by omega
      rw [if_neg quiet.1] at queue
      rw [if_neg quiet.2] at commands
      exact iff_of_true (others_kept_refl nodeId queue commands) trivial

/-- The steps that handle a message which is not a first Registration, with nothing
in between, up to the next read. -/
def handleActions (conn : ConnId) (msg : SapientMessage F) : List (Action F) :=
  .receive conn msg :: List.replicate 5 (.proceed conn)

theorem receive_taskAck (config : BridgeConfig F) {state after : Bridge F} {conn : ConnId}
    {msg : SapientMessage F} {ack : TaskAck} (content : msg.content = some (.taskAck ack))
    (received : step config state (.receive conn msg) = some after) :
    AckStage msg (ack.taskId.getD "") 5 (after.conns conn).stage ∧
      after.taskQueue = state.taskQueue ∧ after.taskCommands = state.taskCommands := by
  simp only [step] at received
  split at received
  · cases received
    refine ⟨?_, rfl, rfl⟩
    simp only [setConn, arrive, isRegistration, content, Function.update_self]
    exact .locating
  · cases received

theorem taskAck_handled (config : BridgeConfig F) {state after : Bridge F} {conn : ConnId}
    {msg : SapientMessage F} {ack : TaskAck} (content : msg.content = some (.taskAck ack))
    (handled : follow (machine config) state (handleActions conn msg) = some after) :
    after.taskQueue = state.taskQueue.ack msg.sender (ack.taskId.getD "") ∧
      after.taskCommands = state.taskCommands.erase (ack.taskId.getD "") := by
  obtain ⟨arrived, received, handled⟩ := follow_cons handled
  obtain ⟨located, first, handled⟩ := follow_cons handled
  obtain ⟨routed, second, handled⟩ := follow_cons handled
  obtain ⟨recorded, third, handled⟩ := follow_cons handled
  obtain ⟨correlated, fourth, handled⟩ := follow_cons handled
  obtain ⟨emitted, fifth, handled⟩ := follow_cons handled
  cases handled
  obtain ⟨at5, queue5, commands5⟩ := receive_taskAck config content received
  obtain ⟨at4, queue4, commands4⟩ := ackStage_step config content at5 first
  obtain ⟨at3, queue3, commands3⟩ := ackStage_step config content at4 second
  obtain ⟨at2, queue2, commands2⟩ := ackStage_step config content at3 third
  obtain ⟨at1, queue1, commands1⟩ := ackStage_step config content at2 fourth
  obtain ⟨_, queue0, commands0⟩ := ackStage_step config content at1 fifth
  constructor
  · simp [queue0, queue1, queue2, queue3, queue4, queue5]
  · simp [commands0, commands1, commands2, commands3, commands4, commands5]

/-- A TaskAck of any sender about any task, on the connection of any node, leaves
the tasking of the other nodes as it was exactly when none of them has a pending
task of this id that is the sender's own or that carries a command. The same holds
step by step, whatever is interleaved. -/
theorem taskAck_isolated_iff (config : BridgeConfig F) (msg : SapientMessage F)
    (ack : TaskAck) (content : msg.content = some (.taskAck ack)) (conn : ConnId)
    (nodeId : String) :
    (∀ state after,
      follow (machine config) state (handleActions conn msg) = some after →
      (OthersKept nodeId state after ↔
        ∀ other, other ≠ nodeId → PendingAt state other (ack.taskId.getD "") →
          other ≠ msg.sender ∧ state.taskCommands.lookup (ack.taskId.getD "") = none)) ∧
    ∀ state after left,
      AckStage msg (ack.taskId.getD "") (left + 1) (state.conns conn).stage →
      step config state (.proceed conn) = some after →
      (OthersKept nodeId state after ↔
        Spares state nodeId msg.sender (ack.taskId.getD "") (left + 1)) := by
  refine ⟨fun state after handled => ?_, fun state after left handling taken => ?_⟩
  · obtain ⟨queue, commands⟩ := taskAck_handled config content handled
    exact others_kept_both queue commands
  · exact ackStage_spares config content nodeId handling taken

def taskForOther : List (Action Float) :=
  .receive 0 (registrationOf "a") :: List.replicate 8 (.proceed 0) ++
    .sendTask 0 "b" (taskMessage "t") (some "cmd") :: List.replicate 3 (.advance 0)

/-- When `a` acknowledges a task `t`, the command of `b`'s task is gone. -/
theorem taskAck_not_isolated :
    ¬ ∀ (state after : Bridge Float) (conn : ConnId) (nodeId : String)
        (msg : SapientMessage Float) (ack : TaskAck),
      Reachable (machine plainConfig) state →
      (state.conns conn).registered = some nodeId →
      msg.content = some (.taskAck ack) →
      follow (machine plainConfig) state (handleActions conn msg) = some after →
      OthersKept nodeId state after := by
  intro isolated
  have kept := isolated _ _ 0 "a" (taskAckOf "a" "t" 1) _
    ⟨_, replay_reachable taskForOther rfl⟩ rfl rfl rfl "b" (by decide)
  have lost := kept.2 ⟨⟨some 0, taskMessage "t"⟩, "t", 0, plainConfig.taskTtl⟩ (by
    exact List.mem_singleton.mpr rfl)
  revert lost
  decide

theorem taskAck_isolated_iff_taskForOther :
    ∃ state after : Bridge Float,
      follow (machine plainConfig) state (handleActions 0 (taskAckOf "a" "t" 1)) =
          some after ∧
        (OthersKept "a" state after ↔
          ∀ other, other ≠ "a" → PendingAt state other "t" →
            other ≠ "a" ∧ state.taskCommands.lookup "t" = none) := by
  obtain ⟨after, handled⟩ : ∃ after, follow (machine plainConfig)
      ((replay (machine plainConfig) ([], (machine plainConfig).init) taskForOther).get rfl).2
      (handleActions 0 (taskAckOf "a" "t" 1)) = some after := ⟨_, rfl⟩
  exact ⟨_, after, handled,
    (taskAck_isolated_iff plainConfig (taskAckOf "a" "t" 1) _ rfl 0 "a").1 _ after handled⟩

end PeatSapient.Bridge
