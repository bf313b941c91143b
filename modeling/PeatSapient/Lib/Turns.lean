import Mathlib.Data.List.Basic

/-! Items that are issued in an order and put into one place on two routes: a few are
replayed from a list, and the rest are pushed by whoever issued them. What is put there
is in the order of issue as long as nobody pushes out of turn. -/

namespace PeatSapient.Turns

universe u
variable {Item : Type u} [DecidableEq Item]

def Before (issued : List Item) (earlier later : Item) : Prop :=
  later ∈ issued ∧ issued.idxOf earlier < issued.idxOf later

instance (issued : List Item) (earlier later : Item) :
    Decidable (Before issued earlier later) :=
  inferInstanceAs (Decidable (_ ∧ _))

/-- Where things stand: what has been put, what a replay is still to put, what it has put
already, and who is waiting to push. -/
structure InTurn (issued put coming replayed : List Item) (waiting : Item → Prop) : Prop where
  putIssued : ∀ item ∈ put, item ∈ issued
  putOrdered : put.Pairwise (Before issued)
  comingIssued : ∀ item ∈ coming, item ∈ issued
  comingOrdered : coming.Pairwise (Before issued)
  putFirst : ∀ earlier ∈ put, ∀ later ∈ coming, Before issued earlier later
  waitingIssued : ∀ item, waiting item → item ∈ issued
  passed : ∀ item ∈ put, item ∈ replayed ∨ ∀ other, waiting other → Before issued item other

/-- An item may be pushed now: the replay is still to put later items only and has put
earlier ones only, and nobody who issued earlier is still waiting. -/
structure MayPush (issued coming replayed : List Item) (waiting : Item → Prop)
    (item : Item) : Prop where
  beforeComing : ∀ other ∈ coming, Before issued item other
  afterReplayed : ∀ other ∈ replayed, Before issued other item
  overtakesNone : ∀ other, waiting other → other ≠ item → Before issued item other

variable {issued put coming replayed : List Item} {waiting : Item → Prop}

theorem Before.irrefl (item : Item) : ¬ Before issued item item :=
  fun before => Nat.lt_irrefl _ before.2

theorem Before.earlier_mem {earlier later : Item} (before : Before issued earlier later) :
    earlier ∈ issued := by
  apply List.idxOf_lt_length_iff.mp
  exact Nat.lt_of_lt_of_le before.2 List.idxOf_le_length

theorem Before.append {earlier later : Item} (before : Before issued earlier later)
    (more : List Item) : Before (issued ++ more) earlier later := by
  refine ⟨List.mem_append_left more before.1, ?_⟩
  rw [List.idxOf_append_of_mem before.1, List.idxOf_append_of_mem before.earlier_mem]
  exact before.2

theorem before_new {earlier latest : Item} (member : earlier ∈ issued)
    (fresh : latest ∉ issued) : Before (issued ++ [latest]) earlier latest := by
  refine ⟨List.mem_append_right issued (List.mem_singleton.mpr rfl), ?_⟩
  rw [List.idxOf_append_of_mem member, List.idxOf_append_of_notMem fresh]
  exact Nat.lt_of_lt_of_le (List.idxOf_lt_length_iff.mpr member) (Nat.le_add_right _ _)

theorem nodup_of_ordered (ordered : put.Pairwise (Before issued)) : put.Nodup := by
  apply ordered.imp
  rintro item _ before rfl
  exact before.irrefl item

theorem InTurn.start (none_ : ∀ item, ¬ waiting item) :
    InTurn ([] : List Item) [] [] [] waiting where
  putIssued := fun _ member => member
  putOrdered := List.Pairwise.nil
  comingIssued := fun _ member => member
  comingOrdered := List.Pairwise.nil
  putFirst := by simp
  waitingIssued := fun item waits => absurd waits (none_ item)
  passed := by simp

theorem InTurn.mono {coming' replayed' : List Item} {waiting' : Item → Prop}
    (inTurn : InTurn issued put coming replayed waiting) (fewer : coming'.Sublist coming)
    (more : ∀ item ∈ replayed, item ∈ replayed') (left : ∀ item, waiting' item → waiting item) :
    InTurn issued put coming' replayed' waiting' where
  putIssued := inTurn.putIssued
  putOrdered := inTurn.putOrdered
  comingIssued := fun item member => inTurn.comingIssued item (fewer.subset member)
  comingOrdered := inTurn.comingOrdered.sublist fewer
  putFirst := fun earlier has later member =>
    inTurn.putFirst earlier has later (fewer.subset member)
  waitingIssued := fun item waits => inTurn.waitingIssued item (left item waits)
  passed := fun item has =>
    (inTurn.passed item has).imp (more item) fun first other waits => first other (left other waits)

theorem InTurn.issue {latest : Item} {coming' : List Item} {waiting' : Item → Prop}
    (inTurn : InTurn issued put coming replayed waiting) (fresh : latest ∉ issued)
    (next : coming'.Sublist (coming ++ [latest]))
    (left : ∀ item, waiting' item → waiting item ∨ item = latest) :
    InTurn (issued ++ [latest]) put coming' replayed waiting' := by
  have grown : ∀ item ∈ issued, item ∈ issued ++ [latest] :=
    fun item member => List.mem_append_left [latest] member
  have own : latest ∈ issued ++ [latest] := List.mem_append_right issued List.mem_cons_self
  have full : InTurn (issued ++ [latest]) put (coming ++ [latest]) replayed waiting' := by
    constructor
    · exact fun item member => grown item (inTurn.putIssued item member)
    · exact inTurn.putOrdered.imp fun before => before.append [latest]
    · intro item member
      rcases List.mem_append.mp member with older | same
      · exact grown item (inTurn.comingIssued item older)
      · rw [List.mem_singleton.mp same]
        exact own
    · apply List.pairwise_append.mpr
      refine ⟨inTurn.comingOrdered.imp fun before => before.append [latest],
        List.pairwise_singleton _ _, ?_⟩
      intro earlier older later same
      rw [List.mem_singleton.mp same]
      exact before_new (inTurn.comingIssued earlier older) fresh
    · intro earlier has later member
      rcases List.mem_append.mp member with older | same
      · exact (inTurn.putFirst earlier has later older).append [latest]
      · rw [List.mem_singleton.mp same]
        exact before_new (inTurn.putIssued earlier has) fresh
    · intro item waits
      rcases left item waits with older | same
      · exact grown item (inTurn.waitingIssued item older)
      · rw [same]
        exact own
    · intro item has
      apply (inTurn.passed item has).imp id
      intro first other waits
      rcases left other waits with older | same
      · exact (first other older).append [latest]
      · rw [same]
        exact before_new (inTurn.putIssued item has) fresh
  exact full.mono next (fun _ member => member) fun _ waits => waits

theorem InTurn.replay {item : Item} {rest : List Item}
    (inTurn : InTurn issued put (item :: rest) replayed waiting) :
    InTurn issued (put ++ [item]) rest (item :: replayed) waiting := by
  obtain ⟨first, ordered⟩ := List.pairwise_cons.mp inTurn.comingOrdered
  constructor
  · intro other member
    rcases List.mem_append.mp member with older | same
    · exact inTurn.putIssued other older
    · rw [List.mem_singleton.mp same]
      exact inTurn.comingIssued item List.mem_cons_self
  · apply List.pairwise_append.mpr
    refine ⟨inTurn.putOrdered, List.pairwise_singleton _ _, ?_⟩
    intro earlier has later same
    rw [List.mem_singleton.mp same]
    exact inTurn.putFirst earlier has item List.mem_cons_self
  · exact fun other member => inTurn.comingIssued other (List.mem_cons_of_mem item member)
  · exact ordered
  · intro earlier has later member
    rcases List.mem_append.mp has with older | same
    · exact inTurn.putFirst earlier older later (List.mem_cons_of_mem item member)
    · rw [List.mem_singleton.mp same]
      exact first later member
  · exact inTurn.waitingIssued
  · intro other has
    rcases List.mem_append.mp has with older | same
    · exact (inTurn.passed other older).imp (List.mem_cons_of_mem item) id
    · rw [List.mem_singleton.mp same]
      exact Or.inl List.mem_cons_self

/-- Who is waiting pushes an item in its turn, and is done. -/
theorem InTurn.push {item : Item} {waiting' : Item → Prop}
    (inTurn : InTurn issued put coming replayed waiting) (waits : waiting item)
    (may : MayPush issued coming replayed waiting item)
    (left : ∀ other, waiting' other → waiting other ∧ other ≠ item) :
    InTurn issued (put ++ [item]) coming replayed waiting' := by
  constructor
  · intro other member
    rcases List.mem_append.mp member with older | same
    · exact inTurn.putIssued other older
    · rw [List.mem_singleton.mp same]
      exact inTurn.waitingIssued item waits
  · apply List.pairwise_append.mpr
    refine ⟨inTurn.putOrdered, List.pairwise_singleton _ _, ?_⟩
    intro earlier has later same
    rw [List.mem_singleton.mp same]
    rcases inTurn.passed earlier has with replayed_ | first
    · exact may.afterReplayed earlier replayed_
    · exact first item waits
  · exact inTurn.comingIssued
  · exact inTurn.comingOrdered
  · intro earlier has later member
    rcases List.mem_append.mp has with older | same
    · exact inTurn.putFirst earlier older later member
    · rw [List.mem_singleton.mp same]
      exact may.beforeComing later member
  · exact fun other still => inTurn.waitingIssued other (left other still).1
  · intro other has
    rcases List.mem_append.mp has with older | same
    · exact (inTurn.passed other older).imp id fun first another still =>
        first another (left another still).1
    · rw [List.mem_singleton.mp same]
      exact Or.inr fun another still =>
        may.overtakesNone another (left another still).1 (left another still).2

end PeatSapient.Turns
