import PeatSapient.Lib.Lists
import PeatSapient.TaskQueue.Ledger

/-! The ledger and the queue agree after every sequence of calls. Each call is
one case: what it leaves pending, what it settles, and that nothing settled
earlier is touched. -/

namespace PeatSapient.Ledger

open Execution HashMap PeatSapient.Lists

variable {Msg : Type}

def added (ttl call now : Nat) : Operation Msg → List (Nat × String × QueuedTask Msg)
  | .enqueue nodeId taskId msg => [(call, nodeId, ⟨msg, taskId, now, ttl⟩)]
  | _ => []

theorem enqueued_snoc (ttl : Nat) (log : List (Call Msg)) (call : Call Msg) :
    enqueued ttl (log ++ [call]) =
      enqueued ttl log ++ added ttl log.length call.now call.operation := by
  unfold enqueued
  rw [List.zipIdx_append, List.filterMap_append]
  cases shape : call.operation <;> simp [added, shape]

theorem origins_post (maxDepth ttl call now : Nat) (ledger : List (Entry Msg))
    (operation : Operation Msg) :
    (post maxDepth ttl call now ledger operation).map Entry.origin =
      ledger.map Entry.origin ++ added ttl call now operation := by
  cases operation with
  | enqueue nodeId taskId msg =>
      simp only [post, List.map_append, added]
      split
      · rw [origins_retireOldest]
        rfl
      · rfl
  | ack nodeId taskId => simp [post, origins_retire, added]
  | drainExpired => simp [post, origins_retire, added]

theorem settled_post_other (maxDepth ttl call now other : Nat) (different : other ≠ call)
    (ledger : List (Entry Msg)) (operation : Operation Msg) :
    settled (post maxDepth ttl call now ledger operation) other = settled ledger other := by
  cases operation with
  | enqueue nodeId taskId msg =>
      have quiet : settled [(⟨call, nodeId, ⟨msg, taskId, now, ttl⟩, .pending⟩ : Entry Msg)]
          other = [] := by simp [settled]
      unfold settled at quiet ⊢
      simp only [post, List.filter_append, quiet, List.append_nil]
      split
      · exact settled_retireOldest_other (.evicted call) call other rfl different nodeId ledger
      · rfl
  | ack nodeId taskId => exact settled_retire_other (.acked call) call other rfl different _ ledger
  | drainExpired => exact settled_retire_other (.expired call) call other rfl different _ ledger

/-- The books balance: the queue holds what is pending in the ledger, the ledger
lists what the log has enqueued, and every call accounts for what it settled. -/
structure Balanced (state : Books Msg) : Prop where
  agrees : ∀ nodeId,
    state.queue.queueFor nodeId = (waiting state.ledger nodeId).map Entry.task
  entered : state.ledger.map Entry.origin = enqueued state.queue.defaultTtl state.log
  accounts : ∀ number call, state.log[number]? = some call →
    Accounts number call (settled state.ledger number)
  later : ∀ number, ∀ entry ∈ settled state.ledger number,
    entry.issued < number ∧ number < state.log.length
  known : ∀ origin ∈ state.ledger.map Entry.origin,
    origin.1 < state.log.length ∧ origin.2.2.ttl = state.queue.defaultTtl ∧
      origin.2.2.enqueuedAt ≤ state.clock
  sorted : (state.ledger.map Entry.origin).Pairwise
    fun earlier later => earlier.2.2.enqueuedAt ≤ later.2.2.enqueuedAt

theorem balanced_init (maxDepth ttl : Nat) :
    Balanced (books maxDepth ttl : Machine (Books Msg) _).init where
  agrees := fun _ => rfl
  entered := rfl
  accounts := fun _ _ found => by simp [books] at found
  later := fun _ entry member => by simp [books, settled] at member
  known := fun origin member => by simp [books] at member
  sorted := List.Pairwise.nil

theorem Balanced.unsettled {state : Books Msg} (balanced : Balanced state) :
    settled state.ledger state.log.length = [] := by
  apply List.eq_nil_iff_forall_not_mem.mpr
  intro entry member
  exact absurd (balanced.later _ entry member).2 (Nat.lt_irrefl _)

/-- The queue after an operation is what is pending after posting it. -/
theorem agrees_post (state : Books Msg) (balanced : Balanced state) (now : Nat)
    (operation : Operation Msg) (nodeId : String) :
    (perform state.queue now operation).2.queueFor nodeId =
      (waiting (post state.queue.maxDepth state.queue.defaultTtl state.log.length now
        state.ledger operation) nodeId).map Entry.task := by
  have agrees := balanced.agrees
  cases operation with
  | enqueue target taskId msg =>
      have sameLength : (state.queue.queueFor target).length =
          (waiting state.ledger target).length := by rw [agrees, List.length_map]
      have appended : ∀ ledger : List (Entry Msg),
          waiting (ledger ++ [⟨state.log.length, target,
            ⟨msg, taskId, now, state.queue.defaultTtl⟩, .pending⟩]) nodeId =
          waiting ledger nodeId ++ if nodeId = target then
            [⟨state.log.length, target, ⟨msg, taskId, now, state.queue.defaultTtl⟩, .pending⟩]
          else [] := by
        intro ledger
        by_cases same : nodeId = target
        · simp [waiting, same]
        · simp [waiting, same, Ne.symm same]
      simp only [perform, post, TaskQueue.queueFor_enqueue, appended, TaskQueue.keptFor,
        sameLength]
      -- A full queue gives up its oldest entry first, on both sides.
      by_cases full : state.queue.maxDepth ≤ (waiting state.ledger target).length
      · by_cases same : nodeId = target
        · subst same
          simp [full, waiting_retireOldest, agrees]
        · simp [full, same, waiting_retireOldest, agrees]
      · by_cases same : nodeId = target
        · subst same
          simp [full, agrees]
        · simp [full, same, agrees]
  | ack target taskId =>
      simp only [perform, post, TaskQueue.queueFor_ack]
      rw [waiting_retire _ (by simp)]
      by_cases same : nodeId = target
      · subst same
        -- What is waiting for the node is all its own, so the ack's test is on the id alone.
        rw [if_pos rfl, agrees, List.filter_map]
        congr 1
        apply List.filter_congr
        intro entry member
        have here : entry.nodeId = nodeId := ((mem_waiting _ _ _).mp member).2.2
        simp [here]
      · rw [if_neg same, agrees]
        congr 1
        symm
        apply List.filter_eq_self.mpr
        intro entry member
        have here : entry.nodeId = nodeId := ((mem_waiting _ _ _).mp member).2.2
        simp [here, same]
  | drainExpired =>
      simp only [perform, post, TaskQueue.queueFor_drain]
      rw [waiting_retire _ (by simp), agrees, List.filter_map]
      congr 1

theorem settled_post (maxDepth ttl call now : Nat) (ledger : List (Entry Msg))
    (fresh : settled ledger call = []) (operation : Operation Msg) :
    settled (post maxDepth ttl call now ledger operation) call =
      match operation with
      | .enqueue nodeId _ _ =>
          if maxDepth ≤ (waiting ledger nodeId).length then
            ((waiting ledger nodeId).take 1).map fun entry => entry.withFate (.evicted call)
          else []
      | .ack nodeId taskId =>
          (ledger.filter fun entry => entry.fate = .pending ∧
            decide (entry.nodeId = nodeId ∧ entry.task.taskId = taskId) = true).map
              fun entry => entry.withFate (.acked call)
      | .drainExpired =>
          (ledger.filter fun entry => entry.fate = .pending ∧
            entry.task.expired now = true).map fun entry => entry.withFate (.expired call) := by
  cases operation with
  | enqueue nodeId taskId msg =>
      have quiet : settled [(⟨call, nodeId, ⟨msg, taskId, now, ttl⟩, .pending⟩ : Entry Msg)]
          call = [] := by simp [settled]
      have split : ∀ front : List (Entry Msg),
          settled (front ++ [⟨call, nodeId, ⟨msg, taskId, now, ttl⟩, .pending⟩]) call =
            settled front call := by
        intro front
        unfold settled at quiet ⊢
        rw [List.filter_append, quiet, List.append_nil]
      simp only [post, split]
      by_cases full : maxDepth ≤ (waiting ledger nodeId).length
      · simp only [full, if_true]
        exact settled_retireOldest (.evicted call) call rfl nodeId ledger fresh
      · simp only [full, if_false]
        exact fresh
  | ack nodeId taskId => exact settled_retire (.acked call) call rfl _ ledger fresh
  | drainExpired => exact settled_retire (.expired call) call rfl _ ledger fresh

theorem settled_post_old (maxDepth ttl call now : Nat) (ledger : List (Entry Msg))
    (fresh : settled ledger call = []) (operation : Operation Msg) (entry : Entry Msg)
    (member : entry ∈ settled (post maxDepth ttl call now ledger operation) call) :
    ∃ old ∈ ledger, old.issued = entry.issued := by
  rw [settled_post maxDepth ttl call now ledger fresh operation] at member
  cases operation with
  | enqueue nodeId taskId msg =>
      dsimp only at member
      split at member
      · obtain ⟨old, taken, rfl⟩ := List.mem_map.mp member
        have listed := ((mem_waiting _ _ _).mp (List.mem_of_mem_take taken)).1
        exact ⟨old, listed, rfl⟩
      · simp at member
  | ack nodeId taskId =>
      obtain ⟨old, taken, rfl⟩ := List.mem_map.mp member
      exact ⟨old, List.mem_of_mem_filter taken, rfl⟩
  | drainExpired =>
      obtain ⟨old, taken, rfl⟩ := List.mem_map.mp member
      exact ⟨old, List.mem_of_mem_filter taken, rfl⟩

/-- The ids a drain hands out are those of the expired pending entries. The
hash map groups them by node, in an order of its own. -/
theorem drained_perm (state : Books Msg) (balanced : Balanced state) (now : Nat) :
    (state.queue.drainExpired now).1.Perm
      ((state.ledger.filter fun entry => entry.fate = .pending ∧
        entry.task.expired now = true).map fun entry => entry.task.taskId) := by
  let old := state.ledger.filter fun entry => entry.fate = .pending ∧
    entry.task.expired now = true
  have perNode : ∀ held ∈ state.queue.queues.entries,
      (held.2.filter (QueuedTask.expired now)).map QueuedTask.taskId =
        (old.filter fun entry => entry.nodeId = held.1).map fun entry => entry.task.taskId := by
    intro held listed
    have found := (entry_iff_lookup _ held.1 held.2).mp listed
    have agrees := balanced.agrees held.1
    simp only [TaskQueue.queueFor, found, Option.getD_some] at agrees
    rw [agrees, List.filter_map, List.map_map, List.filter_filter, waiting, List.filter_filter]
    congr 1
    apply List.filter_congr
    intro entry _
    by_cases pending : entry.fate = .pending <;> by_cases here : entry.nodeId = held.1 <;>
      simp [pending, here]
  have covered : ∀ entry ∈ old, entry.nodeId ∈ state.queue.queues.keys := by
    intro entry member
    obtain ⟨listed, chosen⟩ := List.mem_filter.mp member
    have pending : entry.fate = .pending := (of_decide_eq_true chosen).1
    have queued : entry.task ∈ state.queue.queueFor entry.nodeId := by
      rw [balanced.agrees]
      exact List.mem_map_of_mem ((mem_waiting _ _ _).mpr ⟨listed, pending, rfl⟩)
    apply AList.mem_keys.mp
    apply AList.lookup_isSome.mp
    cases found : state.queue.queues.lookup entry.nodeId with
    | none => simp [TaskQueue.queueFor, found] at queued
    | some tasks => rfl
  -- Grouping by node and concatenating only permutes, as the keys are distinct.
  have grouped := group_perm Entry.nodeId state.queue.queues.keys
    state.queue.queues.keys_nodup old covered
  have listed : (state.queue.drainExpired now).1 =
      (state.queue.queues.keys.flatMap fun nodeId =>
        old.filter fun entry => entry.nodeId = nodeId).map fun entry => entry.task.taskId := by
    rw [List.map_flatMap, AList.keys, List.keys, List.flatMap_map]
    exact List.flatMap_congr perNode
  rw [listed]
  exact grouped.map _

theorem accounts_post (state : Books Msg) (balanced : Balanced state) (now : Nat)
    (operation : Operation Msg) :
    Accounts state.log.length ⟨now, operation, (perform state.queue now operation).1⟩
      (settled (post state.queue.maxDepth state.queue.defaultTtl state.log.length now
        state.ledger operation) state.log.length) := by
  rw [settled_post _ _ _ _ _ balanced.unsettled]
  cases operation with
  | enqueue nodeId taskId msg =>
      have agrees := balanced.agrees nodeId
      simp only [Accounts, perform, TaskQueue.enqueue, agrees, List.length_map]
      by_cases full : state.queue.maxDepth ≤ (waiting state.ledger nodeId).length
      · cases pending : waiting state.ledger nodeId with
        -- Depth zero: the queue counts as full and has nothing to evict.
        | nil => left; simp
        | cons oldest rest =>
            have here : oldest.nodeId = nodeId :=
              ((mem_waiting state.ledger nodeId oldest).mp (by simp [pending])).2.2
            rw [pending] at full
            right
            refine ⟨oldest.withFate (.evicted state.log.length), ?_, rfl, here, ?_⟩
            · rw [if_pos full]
              rfl
            · rw [if_pos full]
              rfl
      · left
        simp [full]
  | ack nodeId taskId =>
      intro entry member
      obtain ⟨old, taken, rfl⟩ := List.mem_map.mp member
      obtain ⟨_, chosen⟩ := List.mem_filter.mp taken
      have named := of_decide_eq_true (of_decide_eq_true chosen).2
      exact ⟨rfl, named⟩
  | drainExpired =>
      refine ⟨?_, ?_⟩
      · rw [List.map_map]
        exact drained_perm state balanced now
      · intro entry member
        obtain ⟨old, _, rfl⟩ := List.mem_map.mp member
        rfl

theorem added_bounds (ttl call now : Nat) (operation : Operation Msg)
    (origin : Nat × String × QueuedTask Msg) (member : origin ∈ added ttl call now operation) :
    origin.1 = call ∧ origin.2.2.ttl = ttl ∧ origin.2.2.enqueuedAt = now := by
  cases operation with
  | enqueue nodeId taskId msg =>
      rw [added, List.mem_singleton] at member
      subst member
      exact ⟨rfl, rfl, rfl⟩
  | ack nodeId taskId => simp [added] at member
  | drainExpired => simp [added] at member

theorem perform_settings (queue : TaskQueue Msg) (now : Nat) (operation : Operation Msg) :
    (perform queue now operation).2.maxDepth = queue.maxDepth ∧
      (perform queue now operation).2.defaultTtl = queue.defaultTtl := by
  cases operation <;> simp [perform]

theorem books_step {maxDepth ttl : Nat} {before after : Books Msg}
    {action : Nat × Operation Msg}
    (taken : (books maxDepth ttl).step before action = some after) :
    before.clock ≤ action.1 ∧ after.clock = action.1 ∧
      after.queue = (perform before.queue action.1 action.2).2 ∧
      after.ledger = post maxDepth ttl before.log.length action.1 before.ledger action.2 ∧
      after.log = before.log ++
        [⟨action.1, action.2, (perform before.queue action.1 action.2).1⟩] := by
  simp only [books] at taken
  split at taken
  · next ordered =>
      cases taken
      exact ⟨ordered, rfl, rfl, rfl, rfl⟩
  · cases taken

theorem balanced_step {before after : Books Msg} {action : Nat × Operation Msg}
    (balanced : Balanced before)
    (taken : (books before.queue.maxDepth before.queue.defaultTtl).step before action =
      some after) : Balanced after := by
  obtain ⟨now, operation⟩ := action
  obtain ⟨ordered, clock, queue, ledger, log⟩ := books_step taken
  have settings := perform_settings before.queue now operation
  have origins : after.ledger.map Entry.origin = before.ledger.map Entry.origin ++
      added before.queue.defaultTtl before.log.length now operation := by
    rw [ledger, origins_post]
  have length : after.log.length = before.log.length + 1 := by rw [log, List.length_append]; rfl
  have sameTtl : after.queue.defaultTtl = before.queue.defaultTtl := by rw [queue, settings.2]
  refine ⟨?agrees, ?entered, ?accounts, ?later, ?known, ?sorted⟩
  case agrees =>
    intro nodeId
    rw [queue, ledger]
    exact agrees_post before balanced now operation nodeId
  case entered => rw [origins, log, enqueued_snoc, sameTtl, balanced.entered]
  case accounts =>
    intro number call found
    rw [log] at found
    rw [ledger]
    -- Earlier calls keep their accounts, as the new post settles under its own number.
    by_cases old : number < before.log.length
    · rw [List.getElem?_append_left old] at found
      rw [settled_post_other _ _ _ _ _ (Nat.ne_of_lt old)]
      exact balanced.accounts number call found
    · have inside := (List.getElem?_eq_some_iff.mp found).1
      rw [List.length_append, List.length_singleton] at inside
      have latest : number = before.log.length := by omega
      subst latest
      rw [List.getElem?_append_right (Nat.le_refl _), Nat.sub_self] at found
      cases found
      exact accounts_post before balanced now operation
  case later =>
    intro number entry member
    rw [ledger] at member
    rw [length]
    -- What this call settles was enqueued by an earlier one.
    by_cases old : number = before.log.length
    · subst old
      obtain ⟨source, listed, same⟩ :=
        settled_post_old _ _ _ _ _ balanced.unsettled _ _ member
      have issued := (balanced.known _ (List.mem_map_of_mem listed)).1
      change source.issued < _ at issued
      omega
    · rw [settled_post_other _ _ _ _ _ old] at member
      have bounds := balanced.later number entry member
      omega
  case known =>
    intro origin member
    rw [origins] at member
    rw [length, sameTtl, clock]
    rcases List.mem_append.mp member with old | fresh
    · obtain ⟨issued, ttl, time⟩ := balanced.known origin old
      exact ⟨by omega, ttl, Nat.le_trans time ordered⟩
    · obtain ⟨issued, ttl, time⟩ := added_bounds _ _ _ _ _ fresh
      exact ⟨by omega, ttl, Nat.le_of_eq time⟩
  case sorted =>
    rw [origins, List.pairwise_append]
    refine ⟨balanced.sorted, ?_, ?_⟩
    · cases operation <;> simp [added]
    · intro old member fresh inAdded
      rw [(added_bounds _ _ _ _ _ inAdded).2.2]
      exact Nat.le_trans (balanced.known old member).2.2 ordered

theorem balanced_run {maxDepth ttl : Nat} {trace : Trace (Books Msg) (Nat × Operation Msg)}
    {state : Books Msg} (run : Run (books maxDepth ttl) trace state) :
    Balanced state ∧ state.queue.maxDepth = maxDepth ∧ state.queue.defaultTtl = ttl := by
  induction run with
  | start => exact ⟨balanced_init maxDepth ttl, rfl, rfl⟩
  | @next _ before after action _ taken ih =>
      obtain ⟨balanced, depth, time⟩ := ih
      have settings := perform_settings before.queue action.1 action.2
      have queue := (books_step taken).2.2.1
      rw [← depth, ← time] at taken
      refine ⟨balanced_step balanced taken, ?_, ?_⟩
      · rw [queue, settings.1, depth]
      · rw [queue, settings.2, time]

/-- In balanced books every queue is sorted by age, so what has expired at any
later moment is a prefix of it. -/
theorem expired_prefix {state : Books Msg} (balanced : Balanced state) (now : Nat)
    (nodeId : String) :
    (state.queue.queueFor nodeId).filter (QueuedTask.expired now) ++
        (state.queue.drainExpired now).2.queueFor nodeId = state.queue.queueFor nodeId ∧
      ∀ task ∈ (state.queue.drainExpired now).2.queueFor nodeId,
        now - task.enqueuedAt ≤ state.queue.defaultTtl := by
  have sameTtl : ∀ task ∈ state.queue.queueFor nodeId,
      task.ttl = state.queue.defaultTtl := by
    intro task member
    rw [balanced.agrees] at member
    obtain ⟨entry, pending, rfl⟩ := List.mem_map.mp member
    exact (balanced.known _ (List.mem_map_of_mem
      ((mem_waiting _ _ _).mp pending).1)).2.1
  have sorted : (state.queue.queueFor nodeId).Pairwise
      fun earlier later => earlier.enqueuedAt ≤ later.enqueuedAt := by
    rw [balanced.agrees]
    have whole := List.pairwise_map.mp balanced.sorted
    exact List.pairwise_map.mpr (whole.sublist List.filter_sublist)
  rw [TaskQueue.queueFor_drain]
  constructor
  · apply filter_prefix
    -- One TTL for all: what is not younger than an expired entry has expired too.
    apply sorted.imp_of_mem
    intro earlier later inEarlier inLater order old
    simp only [QueuedTask.expired, decide_eq_true_eq] at old ⊢
    rw [sameTtl later inLater] at old
    rw [sameTtl earlier inEarlier]
    omega
  · intro task member
    obtain ⟨listed, fresh⟩ := List.mem_filter.mp member
    rw [← sameTtl task listed]
    simpa [QueuedTask.expired] using fresh

def Answered (log : List (Call Msg)) (entry : Entry Msg) : Prop :=
  match entry.fate with
  | .pending => True
  | .evicted number => ∃ now taskId msg, log[number]? =
      some ⟨now, .enqueue entry.nodeId taskId msg, .evicted (some entry.task.taskId)⟩
  | .expired number => ∃ now taskIds, entry.task.taskId ∈ taskIds ∧
      log[number]? = some ⟨now, .drainExpired, .drained taskIds⟩
  | .acked number => ∃ now, log[number]? =
      some ⟨now, .ack entry.nodeId entry.task.taskId, .acked⟩

theorem answered {state : Books Msg} (balanced : Balanced state) (entry : Entry Msg)
    (listed : entry ∈ state.ledger) : Answered state.log entry := by
  have account : ∀ number, entry.fate.settledBy = some number →
      ∃ call, state.log[number]? = some call ∧ entry ∈ settled state.ledger number ∧
        Accounts number call (settled state.ledger number) := by
    intro number ended
    have member : entry ∈ settled state.ledger number := by simp [settled, listed, ended]
    have inside := (balanced.later number entry member).2
    exact ⟨_, List.getElem?_eq_getElem inside, member,
      balanced.accounts number _ (List.getElem?_eq_getElem inside)⟩
  unfold Answered
  cases fate : entry.fate with
  | pending => trivial
  | evicted number =>
      obtain ⟨⟨now, operation, answer⟩, found, member, accounts⟩ :=
        account number (by rw [fate]; rfl)
      cases operation <;> cases answer <;> simp only [Accounts] at accounts
      · rcases accounts with ⟨none, _⟩ | ⟨only, single, _, here, named⟩
        · simp [none] at member
        · rw [single, List.mem_singleton] at member
          subst member
          subst here
          subst named
          exact ⟨_, _, _, found⟩
      · have ended := (accounts entry member).1
        simp [fate] at ended
      · have ended := accounts.2 entry member
        simp [fate] at ended
  | expired number =>
      obtain ⟨⟨now, operation, answer⟩, found, member, accounts⟩ :=
        account number (by rw [fate]; rfl)
      cases operation <;> cases answer <;> simp only [Accounts] at accounts
      · rcases accounts with ⟨none, _⟩ | ⟨only, single, ended, _, _⟩
        · simp [none] at member
        · rw [single, List.mem_singleton] at member
          subst member
          simp [fate] at ended
      · have ended := (accounts entry member).1
        simp [fate] at ended
      · exact ⟨_, _, accounts.1.mem_iff.mpr (List.mem_map_of_mem member), found⟩
  | acked number =>
      obtain ⟨⟨now, operation, answer⟩, found, member, accounts⟩ :=
        account number (by rw [fate]; rfl)
      cases operation <;> cases answer <;> simp only [Accounts] at accounts
      · rcases accounts with ⟨none, _⟩ | ⟨only, single, ended, _, _⟩
        · simp [none] at member
        · rw [single, List.mem_singleton] at member
          subst member
          simp [fate] at ended
      · obtain ⟨_, here, named⟩ := accounts entry member
        subst here
        subst named
        exact ⟨_, found⟩
      · have ended := accounts.2 entry member
        simp [fate] at ended

/-- No entry is lost or handed out twice. What is pending is what was enqueued,
in order, without the entries some later call has answered for; each entry has
one fate, and the entries with a fate number are those that call speaks of. -/
theorem queue_accounting {maxDepth ttl : Nat}
    {trace : Trace (Books Msg) (Nat × Operation Msg)} {state : Books Msg}
    (run : Run (books maxDepth ttl) trace state) :
    (∀ nodeId, state.queue.pendingFor nodeId =
      (waiting state.ledger nodeId).map fun entry => entry.task.msg) ∧
    state.ledger.map Entry.origin = enqueued ttl state.log ∧
    (∀ entry ∈ state.ledger, Answered state.log entry ∧
      ∀ number, entry.fate.settledBy = some number →
        entry.issued < number ∧ number < state.log.length) ∧
    (∀ number call, state.log[number]? = some call →
      Accounts number call (settled state.ledger number)) ∧
    (∀ now nodeId,
      (state.queue.queueFor nodeId).filter (QueuedTask.expired now) ++
          (state.queue.drainExpired now).2.queueFor nodeId = state.queue.queueFor nodeId ∧
        ∀ task ∈ (state.queue.drainExpired now).2.queueFor nodeId,
          now - task.enqueuedAt ≤ ttl) ∧
    ∀ now nodeId other taskId msg, other ≠ nodeId →
      (state.queue.enqueue now nodeId taskId msg).2.queueFor other =
          state.queue.queueFor other ∧
        (state.queue.ack nodeId taskId).queueFor other = state.queue.queueFor other := by
  obtain ⟨balanced, _, time⟩ := balanced_run run
  refine ⟨?pending, ?entered, ?fates, balanced.accounts, ?drained, ?frame⟩
  case pending =>
    intro nodeId
    rw [TaskQueue.pendingFor, balanced.agrees, List.map_map]
    rfl
  case entered => rw [balanced.entered, time]
  case fates =>
    intro entry listed
    refine ⟨answered balanced entry listed, fun number ended => ?_⟩
    exact balanced.later number entry (by simp [settled, listed, ended])
  case drained =>
    intro now nodeId
    rw [← time]
    exact expired_prefix balanced now nodeId
  case frame =>
    intro now nodeId other taskId msg different
    simp [TaskQueue.queueFor_enqueue, TaskQueue.queueFor_ack, different]

-- One entry meets each fate: evicted at depth one, acknowledged, expired, pending.
def sampleCalls : List (Nat × Operation String) :=
  [(0, .enqueue "n" "a" "first"), (1, .enqueue "n" "b" "second"), (2, .ack "n" "b"),
    (3, .enqueue "n" "c" "third"), (20, .drainExpired), (20, .enqueue "n" "c" "again")]

theorem sample_runs : (replay (books 1 5) ([], (books 1 5).init) sampleCalls).isSome := by
  decide

def sampleBooks : Books String :=
  ((replay (books 1 5) ([], (books 1 5).init) sampleCalls).get sample_runs).2

theorem queue_accounting_sample :
    sampleBooks.ledger.map Entry.fate = [.evicted 1, .acked 2, .expired 4, .pending] ∧
      sampleBooks.queue.pendingFor "n" =
        (waiting sampleBooks.ledger "n").map (fun entry => entry.task.msg) :=
  ⟨by decide, (queue_accounting (replay_reachable sampleCalls sample_runs)).1 "n"⟩

end PeatSapient.Ledger
