import Mathlib.Data.List.Basic

/-! Machines that answer every input with a list of outputs. -/

namespace PeatSapient.Transduction

universe u v w x
variable {State : Type u} {Other : Type x} {Input : Type v} {Output : Type w}

abbrev Transducer (State : Type u) (Input : Type v) (Output : Type w) :=
  State → Input → List Output × State

def after (machine : Transducer State Input Output) (state : State) (inputs : List Input) :
    State :=
  inputs.foldl (fun state input => (machine state input).2) state

def outputs (machine : Transducer State Input Output) : State → List Input → List Output
  | _, [] => []
  | state, input :: rest =>
      (machine state input).1 ++ outputs machine (machine state input).2 rest

/-- On every input, one machine answers the same as the other or less. -/
def Narrower (left : Transducer State Input Output) (right : Transducer Other Input Output) :
    Prop :=
  ∀ state other input, (left state input).1 = (right other input).1 ∨
    (left state input).1.length < (right other input).1.length

theorem length_le {left : Transducer State Input Output}
    {right : Transducer Other Input Output} (narrower : Narrower left right) (state : State)
    (other : Other) (inputs : List Input) :
    (outputs left state inputs).length ≤ (outputs right other inputs).length := by
  induction inputs generalizing state other with
  | nil => exact Nat.le_refl _
  | cons input rest ih =>
      have later := ih (left state input).2 (right other input).2
      simp only [outputs, List.length_append]
      rcases narrower state other input with same | less
      · rw [same]
        omega
      · omega

/-- Machines of which one is narrower give the same outputs exactly when they give the
same answer to every single input. -/
theorem outputs_eq_iff {left : Transducer State Input Output}
    {right : Transducer Other Input Output} (narrower : Narrower left right) (state : State)
    (other : Other) (inputs : List Input) :
    outputs left state inputs = outputs right other inputs ↔
      ∀ earlier input later, inputs = earlier ++ input :: later →
        (left (after left state earlier) input).1 =
          (right (after right other earlier) input).1 := by
  induction inputs generalizing state other with
  | nil => simp [outputs]
  | cons first rest ih =>
      constructor
      -- Outputs that are equal as a whole leave no room for one shorter answer.
      · intro same earlier input later split
        have shorter := length_le narrower (left state first).2 (right other first).2 rest
        have answer : (left state first).1 = (right other first).1 := by
          refine (narrower state other first).resolve_right fun less => ?_
          have lengths := congrArg List.length same
          simp only [outputs, List.length_append] at lengths
          omega
        cases earlier with
        | nil =>
            cases split
            exact answer
        | cons head tail =>
            simp only [List.cons_append, List.cons.injEq] at split
            obtain ⟨rfl, split⟩ := split
            simp only [outputs, answer, List.append_cancel_left_eq] at same
            exact (ih _ _).mp same tail input later split
      · intro agree
        have answer := agree [] first rest rfl
        simp only [after, List.foldl_nil] at answer
        have later := (ih (left state first).2 (right other first).2).mpr
          fun earlier input tail split => agree (first :: earlier) input tail (by simp [split])
        simp only [outputs, answer, later]

end PeatSapient.Transduction
