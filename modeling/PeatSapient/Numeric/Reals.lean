import Mathlib.Analysis.SpecialFunctions.Complex.Arg
import Mathlib.Analysis.SpecialFunctions.Pow.Real
import PeatSapient.Numeric

/-! The number type over exact real arithmetic: nothing is rounded, and the angle
conversions are inverse to each other. -/

namespace PeatSapient

/-- The real numbers, with the operations of the transforms alone. -/
def Reals : Type := ℝ

namespace Reals

def toReal (value : Reals) : ℝ := value

def ofReal (value : ℝ) : Reals := value

open Classical in
noncomputable instance : FloatOps Reals where
  toAdd := inferInstanceAs (Add ℝ)
  toSub := inferInstanceAs (Sub ℝ)
  toMul := inferInstanceAs (Mul ℝ)
  toDiv := inferInstanceAs (Div ℝ)
  toNeg := inferInstanceAs (Neg ℝ)
  toOfScientific := inferInstanceAs (OfScientific ℝ)
  ofNat := fun value => ofReal value
  asF32 := fun value => value
  lt := fun left right => decide (left.toReal < right.toReal)
  le := fun left right => decide (left.toReal ≤ right.toReal)
  isZero := fun value => decide (value.toReal = 0)
  isFinite := fun _ => true
  min := fun left right => ofReal (min left.toReal right.toReal)
  toRadians := fun value => ofReal (value.toReal * (Real.pi / 180))
  toDegrees := fun value => ofReal (value.toReal * (180 / Real.pi))
  sin := fun value => ofReal (Real.sin value)
  cos := fun value => ofReal (Real.cos value)
  tan := fun value => ofReal (Real.tan value)
  sqrt := fun value => ofReal (Real.sqrt value)
  atan2 := fun y x => ofReal (Complex.arg ⟨x, y⟩)
  powi := fun value exponent => ofReal (value.toReal ^ exponent)
  powf := fun value exponent => ofReal (value.toReal ^ exponent.toReal)

@[simp] theorem toRadians_toDegrees (value : Reals) :
    FloatOps.toRadians (FloatOps.toDegrees value) = value := by
  have turned : (value.toReal * (180 / Real.pi)) * (Real.pi / 180) = value.toReal := by
    have nonzero := Real.pi_ne_zero
    field_simp
  exact turned

@[simp] theorem toDegrees_toRadians (value : Reals) :
    FloatOps.toDegrees (FloatOps.toRadians value) = value := by
  have turned : (value.toReal * (Real.pi / 180)) * (180 / Real.pi) = value.toReal := by
    have nonzero := Real.pi_ne_zero
    field_simp
  exact turned

/-- The literals of the transforms are the reals they denote. -/
theorem zero_eq : (0.0 : Reals) = ofReal 0 := by
  have zero : (0.0 : ℝ) = 0 := by norm_num
  exact zero

@[simp] theorem toRadians_zero : FloatOps.toRadians (0.0 : Reals) = 0.0 := by
  rw [zero_eq]
  exact zero_mul (Real.pi / 180)

@[simp] theorem toDegrees_zero : FloatOps.toDegrees (0.0 : Reals) = 0.0 := by
  rw [zero_eq]
  exact zero_mul (180 / Real.pi)

@[simp] theorem zero_times (factor : Reals) : (0.0 : Reals) * factor = 0.0 := by
  rw [zero_eq]
  exact zero_mul factor.toReal

theorem div_times (value factor : Reals) (nonzero : factor.toReal ≠ 0) :
    value / factor * factor = value :=
  div_mul_cancel₀ value.toReal nonzero

end Reals

end PeatSapient
