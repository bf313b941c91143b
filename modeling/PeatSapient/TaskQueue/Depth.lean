import PeatSapient.TaskQueue.Accounting

/-! The depth of the queues. An enqueue makes room before it adds its task, so that the
bound is kept at every depth but zero, where there is no room to make. -/

namespace PeatSapient.TaskQueue

open Execution Ledger

variable {Msg : Type}

def isEnqueue : Operation Msg → Bool
  | .enqueue _ _ _ => true
  | _ => false

def Bounded (queue : TaskQueue Msg) : Prop :=
  ∀ nodeId, (queue.queueFor nodeId).length ≤ queue.maxDepth

/-- The next enqueue evicts from a queue that holds `maxDepth` tasks, and then the oldest
one, under the id it returns; otherwise it only adds. Other queues are not touched. -/
structure EvictsOldest (queue : TaskQueue Msg) : Prop where
  evicts : ∀ now nodeId taskId msg evicted,
    (queue.enqueue now nodeId taskId msg).1 = some evicted →
      (queue.queueFor nodeId).length = queue.maxDepth ∧
        ∃ oldest rest, queue.queueFor nodeId = oldest :: rest ∧ oldest.taskId = evicted ∧
          (queue.enqueue now nodeId taskId msg).2.queueFor nodeId =
            rest ++ [⟨msg, taskId, now, queue.defaultTtl⟩]
  adds : ∀ now nodeId taskId msg, (queue.enqueue now nodeId taskId msg).1 = none →
    (queue.enqueue now nodeId taskId msg).2.queueFor nodeId =
      queue.queueFor nodeId ++ [⟨msg, taskId, now, queue.defaultTtl⟩]
  others : ∀ now nodeId taskId msg other, other ≠ nodeId →
    (queue.enqueue now nodeId taskId msg).2.queueFor other = queue.queueFor other

theorem length_keptFor (queue : TaskQueue Msg) (nodeId : String) :
    (queue.keptFor nodeId).length =
      if queue.maxDepth ≤ (queue.queueFor nodeId).length then
        (queue.queueFor nodeId).length - 1
      else (queue.queueFor nodeId).length := by
  unfold keptFor
  split
  · exact List.length_tail
  · rfl

theorem Bounded.perform {queue : TaskQueue Msg} (bounded : queue.Bounded) (now : Nat)
    (operation : Operation Msg) (room : isEnqueue operation = true → 0 < queue.maxDepth) :
    (Ledger.perform queue now operation).2.Bounded := by
  intro nodeId
  have held := bounded nodeId
  cases operation with
  | enqueue target taskId msg =>
      have positive := room rfl
      simp only [Ledger.perform, enqueue_maxDepth, queueFor_enqueue]
      split
      · next same =>
          subst same
          rw [List.length_append, length_keptFor, List.length_singleton]
          split <;> omega
      · exact held
  | ack target taskId =>
      simp only [Ledger.perform, ack_maxDepth, queueFor_ack]
      split
      · next same =>
          subst same
          exact Nat.le_trans (List.length_filter_le _ _) held
      · exact held
  | drainExpired =>
      simp only [Ledger.perform, drain_maxDepth, queueFor_drain]
      exact Nat.le_trans (List.length_filter_le _ _) held

theorem Bounded.evictsOldest {queue : TaskQueue Msg} (bounded : queue.Bounded) :
    queue.EvictsOldest where
  evicts := by
    intro now nodeId taskId msg evicted removed
    obtain ⟨oldest, named, full, front⟩ :=
      (evicted_iff queue now nodeId taskId msg evicted).mp removed
    have held := bounded nodeId
    refine ⟨by omega, oldest, queue.keptFor nodeId, front, named, ?_⟩
    rw [queueFor_enqueue, if_pos rfl]
  adds := by
    intro now nodeId taskId msg unevicted
    rw [queueFor_enqueue, if_pos rfl, kept_of_none queue now nodeId taskId msg unevicted]
  others := by
    intro now nodeId taskId msg other different
    rw [queueFor_enqueue, if_neg different]

/-- An enqueue leaves its own task in the queue. -/
theorem queueFor_enqueue_ne_nil (queue : TaskQueue Msg) (now : Nat) (nodeId taskId : String)
    (msg : Msg) : (queue.enqueue now nodeId taskId msg).2.queueFor nodeId ≠ [] := by
  rw [queueFor_enqueue, if_pos rfl]
  exact List.append_ne_nil_of_right_ne_nil _ (List.cons_ne_nil _ _)

theorem bounded_run {maxDepth ttl : Nat} {trace : Trace (Books Msg) (Nat × Operation Msg)}
    {state : Books Msg} (run : Run (books maxDepth ttl) trace state)
    (room : 0 < maxDepth ∨ ∀ entry ∈ trace, isEnqueue entry.2.2 = false) :
    ∀ reached ∈ visited trace state,
      reached.queue.maxDepth = maxDepth ∧ reached.queue.Bounded := by
  induction run with
  | start =>
      intro reached member
      rw [List.mem_singleton.mp member]
      exact ⟨rfl, fun nodeId => Nat.zero_le _⟩
  | @next trace before after action earlier taken ih =>
      have fewer : 0 < maxDepth ∨ ∀ entry ∈ trace, isEnqueue entry.2.2 = false :=
        room.imp_right fun quiet entry member => quiet entry (List.mem_cons_of_mem _ member)
      have held := ih fewer
      obtain ⟨depth, bounded⟩ := held before List.mem_cons_self
      obtain ⟨_, _, queue, _, _⟩ := books_step taken
      rw [visited_cons]
      intro reached member
      rcases List.mem_cons.mp member with rfl | older
      · rw [queue]
        constructor
        · rw [(perform_settings before.queue action.1 action.2).1, depth]
        · apply bounded.perform
          intro enqueues
          rcases room with positive | quiet
          · rw [depth]
            exact positive
          · have silent := quiet (before, action) List.mem_cons_self
            rw [enqueues] at silent
            cases silent
      · exact held reached older

theorem unbounded_of_enqueue {ttl : Nat} {trace : Trace (Books Msg) (Nat × Operation Msg)}
    {state : Books Msg} (run : Run (books 0 ttl) trace state)
    (bounded : ∀ reached ∈ visited trace state, ∀ nodeId,
      (reached.queue.queueFor nodeId).length ≤ 0) :
    ∀ entry ∈ trace, isEnqueue entry.2.2 = false := by
  induction run with
  | start => simp
  | @next trace before after action earlier taken ih =>
      rw [visited_cons] at bounded
      have now := bounded after List.mem_cons_self
      obtain ⟨_, _, queue, _, _⟩ := books_step taken
      intro entry member
      rcases List.mem_cons.mp member with rfl | older
      · obtain ⟨clock, operation⟩ := action
        cases operation with
        | enqueue nodeId taskId msg =>
            have empty := List.length_eq_zero_iff.mp (Nat.le_zero.mp (now nodeId))
            rw [queue] at empty
            exact absurd empty (queueFor_enqueue_ne_nil before.queue clock nodeId taskId msg)
        | _ => rfl
      · exact ih (fun reached held => bounded reached (List.mem_cons_of_mem _ held)) entry older

/-- In a run of the queue no node ever has more than `maxDepth` tasks, and every eviction
is of the oldest task of a full queue, exactly if the depth is positive or nothing is
enqueued at all. -/
theorem depth_bound_iff {maxDepth ttl : Nat}
    {trace : Trace (Books Msg) (Nat × Operation Msg)} {state : Books Msg}
    (run : Run (books maxDepth ttl) trace state) :
    (∀ reached ∈ visited trace state,
        (∀ nodeId, (reached.queue.queueFor nodeId).length ≤ maxDepth) ∧
          reached.queue.EvictsOldest) ↔
      0 < maxDepth ∨ ∀ entry ∈ trace, isEnqueue entry.2.2 = false := by
  constructor
  · intro kept
    by_cases positive : 0 < maxDepth
    · exact Or.inl positive
    · obtain rfl : maxDepth = 0 := by omega
      exact Or.inr (unbounded_of_enqueue run fun reached member => (kept reached member).1)
  · intro room reached member
    obtain ⟨depth, bounded⟩ := bounded_run run room reached member
    constructor
    · intro nodeId
      rw [← depth]
      exact bounded nodeId
    · exact bounded.evictsOldest

theorem depth_bound_iff_evicting :
    ∃ (trace : Trace (Books String) (Nat × Operation String)) (state : Books String),
      state = sampleBooks ∧ ∀ reached ∈ visited trace state,
        (∀ nodeId, (reached.queue.queueFor nodeId).length ≤ 1) ∧ reached.queue.EvictsOldest :=
  ⟨_, _, rfl, (depth_bound_iff (replay_reachable sampleCalls sample_runs)).mpr
    (Or.inl Nat.one_pos)⟩

theorem oneTask_runs : (replay (books 0 5) ([], (books 0 5).init)
    [(0, .enqueue "n" "a" "first")]).isSome := by
  decide

/-- The first task of a queue of depth zero stays in it. -/
theorem depth_exceeded :
    ¬ ∀ (maxDepth ttl : Nat) (trace : Trace (Books String) (Nat × Operation String))
        (state : Books String), Run (books maxDepth ttl) trace state →
      ∀ reached ∈ visited trace state,
        (∀ nodeId, (reached.queue.queueFor nodeId).length ≤ maxDepth) ∧
          reached.queue.EvictsOldest := by
  intro kept
  have held := (kept 0 5 _ _ (replay_reachable _ oneTask_runs) _ List.mem_cons_self).1 "n"
  revert held
  decide

end PeatSapient.TaskQueue
