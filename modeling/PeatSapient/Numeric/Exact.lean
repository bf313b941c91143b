import Mathlib.Algebra.Order.Field.Rat
import PeatSapient.Numeric

/-! The number type over exact rational arithmetic. The functions that leave the
rationals, and the rounding to f32, are a parameter: a result about exact numbers holds
whatever they are. -/

namespace PeatSapient

structure Approximations where
  asF32 : ℚ → ℚ
  toRadians : ℚ → ℚ
  toDegrees : ℚ → ℚ
  sin : ℚ → ℚ
  cos : ℚ → ℚ
  tan : ℚ → ℚ
  sqrt : ℚ → ℚ
  atan2 : ℚ → ℚ → ℚ
  powf : ℚ → ℚ → ℚ

def Exact (_ : Approximations) : Type := ℚ

namespace Exact

variable {approx : Approximations}

def toRat (value : Exact approx) : ℚ := value

def ofRat (value : ℚ) : Exact approx := value

instance : FloatOps (Exact approx) where
  toAdd := inferInstanceAs (Add ℚ)
  toSub := inferInstanceAs (Sub ℚ)
  toMul := inferInstanceAs (Mul ℚ)
  toDiv := inferInstanceAs (Div ℚ)
  toNeg := inferInstanceAs (Neg ℚ)
  toOfScientific := inferInstanceAs (OfScientific ℚ)
  ofNat := fun value => ofRat value
  asF32 := fun value => approx.asF32 value
  lt := fun left right => decide (left.toRat < right.toRat)
  le := fun left right => decide (left.toRat ≤ right.toRat)
  isZero := fun value => decide (value.toRat = 0)
  isFinite := fun _ => true
  min := fun left right => ofRat (min left.toRat right.toRat)
  toRadians := fun value => approx.toRadians value
  toDegrees := fun value => approx.toDegrees value
  sin := fun value => approx.sin value
  cos := fun value => approx.cos value
  tan := fun value => approx.tan value
  sqrt := fun value => approx.sqrt value
  atan2 := fun left right => approx.atan2 left right
  powi := fun value exponent => ofRat (value.toRat ^ exponent)
  powf := fun left right => approx.powf left right

end Exact

def identities : Approximations where
  asF32 := id
  toRadians := id
  toDegrees := id
  sin := id
  cos := id
  tan := id
  sqrt := id
  atan2 := fun left _ => left
  powf := fun left _ => left

end PeatSapient
