import PeatSapient.TaskQueue.Accounting

/-! Why an entry of the ledger is settled. An operation touches an entry only while that is
pending, and only for a cause of its own: the queue of its node is full and it is the oldest
there, its node acknowledges its id, or its time is over. -/

namespace PeatSapient.Ledger

open Execution HashMap

variable {Msg : Type}

def Operation.fate (call : Nat) : Operation Msg → Fate
  | .enqueue _ _ _ => .evicted call
  | .ack _ _ => .acked call
  | .drainExpired => .expired call

/-- What settles a pending entry, in an operation at this time. -/
def Retires (maxDepth now : Nat) (ledger : List (Entry Msg)) (entry : Entry Msg) :
    Operation Msg → Prop
  | .enqueue nodeId _ _ => entry.nodeId = nodeId ∧ maxDepth ≤ (waiting ledger nodeId).length ∧
      (waiting ledger nodeId).head? = some entry
  | .ack nodeId taskId => entry.nodeId = nodeId ∧ entry.task.taskId = taskId
  | .drainExpired => entry.task.expired now = true

theorem mem_retire {fate : Fate} {chosen : Entry Msg → Bool} {ledger : List (Entry Msg)}
    {entry : Entry Msg} (member : entry ∈ retire fate chosen ledger) :
    entry ∈ ledger ∨ ∃ old ∈ ledger, old.fate = .pending ∧ chosen old = true ∧
      entry = old.withFate fate := by
  obtain ⟨old, listed, rfl⟩ := List.mem_map.mp member
  by_cases hit : old.fate = .pending ∧ chosen old = true
  · rw [if_pos hit]
    exact Or.inr ⟨old, listed, hit.1, hit.2, rfl⟩
  · rw [if_neg hit]
    exact Or.inl listed

theorem mem_retireOldest {fate : Fate} {nodeId : String} {ledger : List (Entry Msg)}
    {entry : Entry Msg} (member : entry ∈ retireOldest fate nodeId ledger) :
    entry ∈ ledger ∨ ∃ old ∈ ledger, old.fate = .pending ∧ old.nodeId = nodeId ∧
      (waiting ledger nodeId).head? = some old ∧ entry = old.withFate fate := by
  induction ledger with
  | nil => cases member
  | cons first rest ih =>
      unfold retireOldest at member
      by_cases hit : first.fate = .pending ∧ first.nodeId = nodeId
      · rw [if_pos hit] at member
        rcases List.mem_cons.mp member with rfl | later
        · refine Or.inr ⟨first, List.mem_cons_self, hit.1, hit.2, ?_, rfl⟩
          simp [waiting, hit]
        · exact Or.inl (List.mem_cons_of_mem _ later)
      · rw [if_neg hit] at member
        rcases List.mem_cons.mp member with rfl | later
        · exact Or.inl List.mem_cons_self
        · rcases ih later with listed | ⟨old, listed, pending, own, oldest, same⟩
          · exact Or.inl (List.mem_cons_of_mem _ listed)
          · refine Or.inr ⟨old, List.mem_cons_of_mem _ listed, pending, own, ?_, same⟩
            simpa [waiting, List.filter_cons, hit] using oldest

/-- The entries after an operation: those before it, the one it enqueues, and those it
settles. -/
theorem mem_post {maxDepth ttl call now : Nat} {ledger : List (Entry Msg)}
    {operation : Operation Msg} {entry : Entry Msg}
    (member : entry ∈ post maxDepth ttl call now ledger operation) :
    entry ∈ ledger ∨
      (∃ nodeId taskId msg, operation = .enqueue nodeId taskId msg ∧
        entry = ⟨call, nodeId, ⟨msg, taskId, now, ttl⟩, .pending⟩) ∨
      ∃ old ∈ ledger, old.fate = .pending ∧ Retires maxDepth now ledger old operation ∧
        entry = old.withFate (operation.fate call) := by
  cases operation with
  | enqueue nodeId taskId msg =>
      simp only [post, List.mem_append, List.mem_singleton] at member
      rcases member with earlier | rfl
      · split at earlier
        · next full =>
            rcases mem_retireOldest earlier with listed | ⟨old, listed, pending, own, oldest, same⟩
            · exact Or.inl listed
            · exact Or.inr (Or.inr ⟨old, listed, pending, ⟨own, full, oldest⟩, same⟩)
        · exact Or.inl earlier
      · exact Or.inr (Or.inl ⟨nodeId, taskId, msg, rfl, rfl⟩)
  | ack nodeId taskId =>
      rcases mem_retire member with listed | ⟨old, listed, pending, chosen, same⟩
      · exact Or.inl listed
      · have named : old.nodeId = nodeId ∧ old.task.taskId = taskId := by simpa using chosen
        exact Or.inr (Or.inr ⟨old, listed, pending, named, same⟩)
  | drainExpired =>
      rcases mem_retire member with listed | ⟨old, listed, pending, chosen, same⟩
      · exact Or.inl listed
      · exact Or.inr (Or.inr ⟨old, listed, pending, chosen, same⟩)

theorem post_all {maxDepth ttl call now : Nat} {ledger : List (Entry Msg)}
    {operation : Operation Msg} {holds : Entry Msg → Prop}
    (kept : ∀ entry ∈ ledger, holds entry)
    (entered : ∀ entry : Entry Msg, entry.fate = .pending → holds entry)
    (settled : ∀ entry ∈ ledger, Retires maxDepth now ledger entry operation →
      holds (entry.withFate (operation.fate call))) :
    ∀ entry ∈ post maxDepth ttl call now ledger operation, holds entry := by
  intro entry member
  rcases mem_post member with listed | ⟨_, _, _, _, rfl⟩ | ⟨old, listed, _, cause, rfl⟩
  · exact kept entry listed
  · exact entered _ rfl
  · exact settled old listed cause

theorem books_enabled (maxDepth ttl : Nat) {now : Nat} {state : Books Msg}
    (ordered : state.clock ≤ now) (operation : Operation Msg) :
    ∃ after, (books maxDepth ttl).step state (now, operation) = some after := by
  simp [books, ordered]

/-- The oldest entry that waits for a node is the first task of its queue. -/
theorem Balanced.oldest {state : Books Msg} (balanced : Balanced state) {nodeId : String}
    {entry : Entry Msg} (first : (waiting state.ledger nodeId).head? = some entry) :
    (state.queue.queueFor nodeId).head? = some entry.task := by
  rw [balanced.agrees, List.head?_map, first]
  rfl

end PeatSapient.Ledger
