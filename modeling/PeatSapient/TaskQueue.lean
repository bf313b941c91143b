import PeatSapient.Lib.HashMap

/-! The per-node outbound queue of task_queue.rs. Instants and durations are
nanosecond counts, and a difference of instants saturates at zero. The queue
stores messages and never looks into them, so their type is a parameter. -/

namespace PeatSapient

open HashMap

variable {Msg : Type}

structure QueuedTask (Msg : Type) where
  msg : Msg
  taskId : String
  enqueuedAt : Nat
  ttl : Nat
  deriving DecidableEq

def QueuedTask.expired (now : Nat) (task : QueuedTask Msg) : Bool :=
  decide (task.ttl < now - task.enqueuedAt)

structure TaskQueue (Msg : Type) where
  queues : Table String (List (QueuedTask Msg))
  maxDepth : Nat
  defaultTtl : Nat

namespace TaskQueue

def new (maxDepth defaultTtl : Nat) : TaskQueue Msg := ⟨∅, maxDepth, defaultTtl⟩

def queueFor (queue : TaskQueue Msg) (nodeId : String) : List (QueuedTask Msg) :=
  (queue.queues.lookup nodeId).getD []

-- `pop_front` on an empty queue evicts nothing, which is reached at depth zero.
def enqueue (queue : TaskQueue Msg) (now : Nat) (nodeId taskId : String) (msg : Msg) :
    Option String × TaskQueue Msg :=
  let tasks := queue.queueFor nodeId
  let dropped := if queue.maxDepth ≤ tasks.length then tasks.head? else none
  let kept := if queue.maxDepth ≤ tasks.length then tasks.tail else tasks
  let added := kept ++ [⟨msg, taskId, now, queue.defaultTtl⟩]
  (dropped.map QueuedTask.taskId,
    { queue with queues := queue.queues.insert nodeId added })

def ack (queue : TaskQueue Msg) (nodeId taskId : String) : TaskQueue Msg :=
  match queue.queues.lookup nodeId with
  | none => queue
  | some tasks =>
      let retained := tasks.filter fun task => task.taskId ≠ taskId
      { queue with queues := queue.queues.insert nodeId retained }

def drainExpired (queue : TaskQueue Msg) (now : Nat) : List String × TaskQueue Msg :=
  (queue.queues.entries.flatMap fun entry =>
      (entry.2.filter (QueuedTask.expired now)).map QueuedTask.taskId,
    { queue with queues :=
        mapValues (List.filter fun task => !task.expired now) queue.queues })

def pendingFor (queue : TaskQueue Msg) (nodeId : String) : List Msg :=
  (queue.queueFor nodeId).map QueuedTask.msg

def isEmptyFor (queue : TaskQueue Msg) (nodeId : String) : Bool :=
  (queue.queueFor nodeId).isEmpty

@[simp] theorem queueFor_new (maxDepth defaultTtl : Nat) (nodeId : String) :
    (new maxDepth defaultTtl : TaskQueue Msg).queueFor nodeId = [] := rfl

@[simp] theorem enqueue_maxDepth (queue : TaskQueue Msg) (now : Nat)
    (nodeId taskId : String) (msg : Msg) :
    (queue.enqueue now nodeId taskId msg).2.maxDepth = queue.maxDepth := rfl

@[simp] theorem enqueue_defaultTtl (queue : TaskQueue Msg) (now : Nat)
    (nodeId taskId : String) (msg : Msg) :
    (queue.enqueue now nodeId taskId msg).2.defaultTtl = queue.defaultTtl := rfl

@[simp] theorem ack_maxDepth (queue : TaskQueue Msg) (nodeId taskId : String) :
    (queue.ack nodeId taskId).maxDepth = queue.maxDepth := by
  unfold ack
  split <;> rfl

@[simp] theorem ack_defaultTtl (queue : TaskQueue Msg) (nodeId taskId : String) :
    (queue.ack nodeId taskId).defaultTtl = queue.defaultTtl := by
  unfold ack
  split <;> rfl

@[simp] theorem drain_maxDepth (queue : TaskQueue Msg) (now : Nat) :
    (queue.drainExpired now).2.maxDepth = queue.maxDepth := rfl

@[simp] theorem drain_defaultTtl (queue : TaskQueue Msg) (now : Nat) :
    (queue.drainExpired now).2.defaultTtl = queue.defaultTtl := rfl

def keptFor (queue : TaskQueue Msg) (nodeId : String) : List (QueuedTask Msg) :=
  if queue.maxDepth ≤ (queue.queueFor nodeId).length then
    (queue.queueFor nodeId).tail
  else queue.queueFor nodeId

theorem queueFor_enqueue (queue : TaskQueue Msg) (now : Nat) (nodeId taskId : String)
    (msg : Msg) (other : String) :
    (queue.enqueue now nodeId taskId msg).2.queueFor other =
      if other = nodeId then
        queue.keptFor nodeId ++ [⟨msg, taskId, now, queue.defaultTtl⟩]
      else queue.queueFor other := by
  by_cases same : other = nodeId
  · subst other
    simp [enqueue, queueFor, keptFor]
  · simp [enqueue, queueFor, same]

theorem queueFor_ack (queue : TaskQueue Msg) (nodeId taskId other : String) :
    (queue.ack nodeId taskId).queueFor other =
      if other = nodeId then
        (queue.queueFor nodeId).filter fun task => task.taskId ≠ taskId
      else queue.queueFor other := by
  by_cases same : other = nodeId
  · subst other
    unfold ack
    cases found : queue.queues.lookup nodeId with
    | none => simp [queueFor, found]
    | some tasks => simp [queueFor, found]
  · unfold ack
    cases found : queue.queues.lookup nodeId with
    | none => simp [same]
    | some tasks => simp [queueFor, same]

theorem queueFor_drain (queue : TaskQueue Msg) (now : Nat) (nodeId : String) :
    (queue.drainExpired now).2.queueFor nodeId =
      (queue.queueFor nodeId).filter fun task => !task.expired now := by
  unfold drainExpired queueFor
  simp only [lookup_mapValues]
  cases queue.queues.lookup nodeId <;> rfl

/-- Exactly the ids of expired entries of any node are handed out. -/
theorem drained_iff (queue : TaskQueue Msg) (now : Nat) (taskId : String) :
    taskId ∈ (queue.drainExpired now).1 ↔
      ∃ nodeId, ∃ task ∈ queue.queueFor nodeId,
        task.expired now = true ∧ task.taskId = taskId := by
  simp only [drainExpired, List.mem_flatMap, List.mem_map, List.mem_filter]
  constructor
  · rintro ⟨⟨nodeId, tasks⟩, listed, task, ⟨member, old⟩, named⟩
    have found := (entry_iff_lookup _ _ _).mp listed
    exact ⟨nodeId, task, by simpa [queueFor, found] using member, old, named⟩
  · rintro ⟨nodeId, task, member, old, named⟩
    unfold queueFor at member
    cases found : queue.queues.lookup nodeId with
    | none => simp [found] at member
    | some tasks =>
        exact ⟨⟨nodeId, tasks⟩, (entry_iff_lookup _ _ _).mpr found, task,
          ⟨by simpa [found] using member, old⟩, named⟩

theorem evicted_iff (queue : TaskQueue Msg) (now : Nat) (nodeId taskId : String)
    (msg : Msg) (evicted : String) :
    (queue.enqueue now nodeId taskId msg).1 = some evicted ↔
      ∃ oldest, oldest.taskId = evicted ∧
        queue.maxDepth ≤ (queue.queueFor nodeId).length ∧
        queue.queueFor nodeId = oldest :: queue.keptFor nodeId := by
  unfold enqueue keptFor
  by_cases full : queue.maxDepth ≤ (queue.queueFor nodeId).length
  · cases state : queue.queueFor nodeId with
    | nil => simp
    | cons oldest rest =>
        rw [state] at full
        have room : queue.maxDepth ≤ rest.length + 1 := full
        simp [room]
  · simp [full]

theorem kept_of_none (queue : TaskQueue Msg) (now : Nat) (nodeId taskId : String)
    (msg : Msg) (unevicted : (queue.enqueue now nodeId taskId msg).1 = none) :
    queue.keptFor nodeId = queue.queueFor nodeId := by
  unfold enqueue at unevicted
  unfold keptFor
  by_cases full : queue.maxDepth ≤ (queue.queueFor nodeId).length
  · cases state : queue.queueFor nodeId with
    | nil => simp
    | cons oldest rest =>
        rw [state] at full unevicted
        have room : queue.maxDepth ≤ rest.length + 1 := full
        simp [room] at unevicted
  · simp [full]

end TaskQueue

end PeatSapient
