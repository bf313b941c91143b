/-! The arithmetic the transforms use. The number type is a parameter, so that a
result may be read over machine floats or over exact numbers. An f32 is kept as
the f64 of the same value: `asF32` rounds to the narrower format, and each f32
operation of the source is the f64 operation followed by that rounding. -/

namespace PeatSapient

class FloatOps (F : Type) extends Add F, Sub F, Mul F, Div F, Neg F, OfScientific F where
  ofNat : Nat → F
  asF32 : F → F
  lt : F → F → Bool
  le : F → F → Bool
  isZero : F → Bool
  isFinite : F → Bool
  min : F → F → F
  toRadians : F → F
  toDegrees : F → F
  sin : F → F
  cos : F → F
  tan : F → F
  sqrt : F → F
  atan2 : F → F → F
  powi : F → Nat → F
  powf : F → F → F

instance : FloatOps Float where
  ofNat := Float.ofNat
  asF32 := fun value => value.toFloat32.toFloat
  lt := fun left right => decide (left < right)
  le := fun left right => decide (left ≤ right)
  isZero := fun value => value == 0.0
  isFinite := Float.isFinite
  min := fun left right => if left.isNaN then right else if right < left then right else left
  toRadians := fun value => value * (3.14159265358979323846 / 180.0)
  toDegrees := fun value => value * (180.0 / 3.14159265358979323846)
  sin := Float.sin
  cos := Float.cos
  tan := Float.tan
  sqrt := Float.sqrt
  atan2 := Float.atan2
  powi := fun value exponent => Float.pow value (Float.ofNat exponent)
  powf := Float.pow

def asSecsF64 {F : Type} [FloatOps F] (nanos : Nat) : F :=
  FloatOps.ofNat (nanos / 1000000000) + FloatOps.ofNat (nanos % 1000000000) / 1000000000.0

end PeatSapient
