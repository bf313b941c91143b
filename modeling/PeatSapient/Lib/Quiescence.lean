import Mathlib.Algebra.Order.BigOperators.Group.Finset
import PeatSapient.Lib.Execution

/-! Machines that come to rest. Some actions only carry on with what others have begun. Where
each step of theirs makes a measure smaller they cannot go on forever, and taking them one
after the other, in any order, ends where none of them is enabled. -/

namespace PeatSapient.Execution

universe u v w
variable {State : Type u} {Action : Type v} {Size : Type w}

def Resting (machine : Machine State Action) (serves : Action → Prop) (state : State) : Prop :=
  ∀ action, serves action → machine.step state action = none

/-- Steps of these actions, one after the other, without an end. -/
def Endless (machine : Machine State Action) (serves : Action → Prop) (state : State) : Prop :=
  ∃ states : Nat → State, states 0 = state ∧
    ∀ n, ∃ action, serves action ∧ machine.step (states n) action = some (states (n + 1))

/-- Each of these steps keeps the invariant and makes the measure smaller. -/
def Descends (machine : Machine State Action) (serves : Action → Prop) (inv : State → Prop)
    (smaller : Size → Size → Prop) (measure : State → Size) : Prop :=
  ∀ before action after, inv before → serves action →
    machine.step before action = some after →
      inv after ∧ smaller (measure after) (measure before)

variable {machine : Machine State Action} {serves : Action → Prop} {inv : State → Prop}
  {smaller : Size → Size → Prop} {measure : State → Size}

theorem Descends.not_endless (descends : Descends machine serves inv smaller measure)
    (founded : WellFounded smaller) {state : State} (held : inv state) :
    ¬ Endless machine serves state := by
  induction same : measure state using founded.induction generalizing state with
  | _ size ih =>
      rintro ⟨states, rfl, steps⟩
      obtain ⟨action, served, taken⟩ := steps 0
      obtain ⟨kept, less⟩ := descends _ _ _ held served taken
      rw [same] at less
      exact ih _ less kept rfl ⟨fun n => states (n + 1), rfl, fun n => steps (n + 1)⟩

theorem Descends.comes_to_rest (descends : Descends machine serves inv smaller measure)
    (founded : WellFounded smaller) {state : State} (held : inv state) :
    ∃ actions after, (∀ action ∈ actions, serves action) ∧
      follow machine state actions = some after ∧ inv after ∧ Resting machine serves after := by
  induction same : measure state using founded.induction generalizing state with
  | _ size ih =>
      by_cases still : Resting machine serves state
      · exact ⟨[], state, by simp, rfl, held, still⟩
      · -- One of the actions is enabled: take it, and go on from there.
        simp only [Resting, not_forall] at still
        obtain ⟨action, served, enabled⟩ := still
        obtain ⟨next, taken⟩ := Option.ne_none_iff_exists'.mp enabled
        obtain ⟨kept, less⟩ := descends _ _ _ held served taken
        rw [same] at less
        obtain ⟨actions, after, all, done, invariant, rest⟩ := ih _ less kept rfl
        refine ⟨action :: actions, after, ?_, ?_, invariant, rest⟩
        · simpa [served] using all
        · simpa [follow, taken] using done

theorem Descends.settles (descends : Descends machine serves inv smaller measure)
    (founded : WellFounded smaller) {rest : State → Prop}
    (resting : ∀ state, inv state → (Resting machine serves state ↔ rest state))
    {state : State} (held : inv state) :
    ¬ Endless machine serves state ∧
      (∃ actions after, (∀ action ∈ actions, serves action) ∧
        follow machine state actions = some after ∧ rest after) ∧
      (Resting machine serves state ↔ rest state) := by
  refine ⟨descends.not_endless founded held, ?_, resting state held⟩
  obtain ⟨actions, after, served, done, kept, still⟩ := descends.comes_to_rest founded held
  exact ⟨actions, after, served, done, (resting after kept).mp still⟩

theorem Reachable.untouched_some {Part : Type w} (parts : State → Nat → Part) {fresh : Part}
    (start : ∀ part, parts machine.init part = fresh)
    (single : ∀ before action after, Reachable machine before →
      machine.step before action = some after →
        ∃ touched, ∀ part, part ≠ touched → parts after part = parts before part)
    {state : State} (reached : Reachable machine state) :
    ∃ bound, ∀ part, bound ≤ part → parts state part = fresh := by
  apply reached.invariant fun state => ∃ bound, ∀ part, bound ≤ part → parts state part = fresh
  · exact ⟨0, fun part _ => start part⟩
  · rintro before action after earlier ⟨bound, untouched⟩ taken
    obtain ⟨touched, others⟩ := single before action after earlier taken
    refine ⟨max bound (touched + 1), fun part large => ?_⟩
    rw [others part (by rintro rfl; omega)]
    exact untouched part (by omega)

/-! A measure of numbered parts, of which so many have anything to do. -/

section Totals

def total (bound : Nat) (size : Nat → Nat) : Nat := ∑ part ∈ Finset.range bound, size part

/-- One part has less to do, beside what it leaves elsewhere, and no other part has more. -/
theorem total_lt {bound part : Nat} {size after : Nat → Nat} {elsewhere left : Nat}
    (inside : part < bound) (others : ∀ other, other ≠ part → after other ≤ size other)
    (less : after part + left < size part + elsewhere) :
    total bound after + left < total bound size + elsewhere := by
  have listed : part ∈ Finset.range bound := Finset.mem_range.mpr inside
  have rest : ∑ other ∈ (Finset.range bound).erase part, after other ≤
      ∑ other ∈ (Finset.range bound).erase part, size other :=
    Finset.sum_le_sum fun other member => others other (Finset.ne_of_mem_erase member)
  unfold total
  rw [← Finset.add_sum_erase _ after listed, ← Finset.add_sum_erase _ size listed]
  omega

end Totals

end PeatSapient.Execution
