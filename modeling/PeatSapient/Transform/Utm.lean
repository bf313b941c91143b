import Mathlib.Analysis.SpecialFunctions.Trigonometric.Basic
import PeatSapient.Numeric.Reals
import PeatSapient.Transform.Detection

/-! The inverse UTM projection over exact real arithmetic: the footpoint latitude, then one
series for the latitude and one for the distance from the central meridian. Each of them is
even or odd in the offset from the meridian and in the footpoint latitude. -/

namespace PeatSapient

namespace Utm

open Real

noncomputable def centralMeridian (zone : Nat) : ℝ := ((zone : ℝ) - 1.0) * 6.0 - 180.0 + 3.0

noncomputable section

def e2 : ℝ := (wgs84E2 : Reals).toReal

def ePrime2 : ℝ := (wgs84EPrime2 : Reals).toReal

def semiMajor : ℝ := (wgs84A : Reals).toReal

def scale : ℝ := (utmK0 : Reals).toReal

def rectifying (y : ℝ) : ℝ :=
  y / scale / (semiMajor * (1.0 - e2 / 4.0 - 3.0 * e2 ^ 2 / 64.0 - 5.0 * e2 ^ 3 / 256.0))

def flattening : ℝ := (1.0 - sqrt (1.0 - e2)) / (1.0 + sqrt (1.0 - e2))

def footpoint (mu : ℝ) : ℝ :=
  mu
    + (3.0 * flattening / 2.0 - 27.0 * flattening ^ 3 / 32.0) * sin (2.0 * mu)
    + (21.0 * flattening ^ 2 / 16.0 - 55.0 * flattening ^ 4 / 32.0) * sin (4.0 * mu)
    + (151.0 * flattening ^ 3 / 96.0) * sin (6.0 * mu)
    + (1097.0 * flattening ^ 4 / 512.0) * sin (8.0 * mu)

def primeVertical (phi : ℝ) : ℝ := semiMajor / sqrt (1.0 - e2 * sin phi ^ 2)

def meridional (phi : ℝ) : ℝ :=
  semiMajor * (1.0 - e2) / (1.0 - e2 * sin phi ^ 2) ^ (1.5 : ℝ)

def t1 (phi : ℝ) : ℝ := tan phi ^ 2

def c1 (phi : ℝ) : ℝ := ePrime2 * cos phi ^ 2

def offset (x phi : ℝ) : ℝ := x / (primeVertical phi * scale)

def latitude (phi d : ℝ) : ℝ :=
  phi - (primeVertical phi * tan phi / meridional phi) *
    (d ^ 2 / 2.0
      - (5.0 + 3.0 * t1 phi + 10.0 * c1 phi - 4.0 * c1 phi ^ 2 - 9.0 * ePrime2) * d ^ 4 / 24.0
      + (61.0 + 90.0 * t1 phi + 298.0 * c1 phi + 45.0 * t1 phi ^ 2 - 252.0 * ePrime2
        - 3.0 * c1 phi ^ 2) * d ^ 6 / 720.0)

def eastward (phi d : ℝ) : ℝ :=
  (d - (1.0 + 2.0 * t1 phi + c1 phi) * d ^ 3 / 6.0
    + (5.0 - 2.0 * c1 phi + 28.0 * t1 phi - 3.0 * c1 phi ^ 2 + 8.0 * ePrime2
      + 24.0 * t1 phi ^ 2) * d ^ 5 / 120.0) / cos phi

def projected (x y : ℝ) (zone : Nat) : Reals × Reals :=
  let phi := footpoint (rectifying y)
  (FloatOps.toDegrees (.ofReal (latitude phi (offset x phi))),
    FloatOps.toDegrees (.ofReal
      ((FloatOps.toRadians (Reals.ofReal (centralMeridian zone))).toReal +
        eastward phi (offset x phi))))

end

/-- The projection of the source, with its two cases of the northing. -/
theorem utmToLatlon_eq (easting northing : Reals) (zone : Nat) (northern : Bool) :
    utmToLatlon easting northing zone northern =
      projected (easting.toReal - 500000.0)
        (if northern then northing.toReal else northing.toReal - 10000000.0) zone := by
  rfl

theorem rectifying_neg (y : ℝ) : rectifying (-y) = -rectifying y := by
  simp only [rectifying, neg_div]

/-- Every term of the footpoint series is odd. -/
theorem footpoint_neg (mu : ℝ) : footpoint (-mu) = -footpoint mu := by
  simp only [footpoint, mul_neg, sin_neg, neg_add]

theorem primeVertical_neg (phi : ℝ) : primeVertical (-phi) = primeVertical phi := by
  simp only [primeVertical, sin_neg, neg_sq]

theorem meridional_neg (phi : ℝ) : meridional (-phi) = meridional phi := by
  simp only [meridional, sin_neg, neg_sq]

theorem t1_neg (phi : ℝ) : t1 (-phi) = t1 phi := by
  simp only [t1, tan_neg, neg_sq]

theorem c1_neg (phi : ℝ) : c1 (-phi) = c1 phi := by
  simp only [c1, cos_neg]

theorem offset_neg (x phi : ℝ) : offset (-x) phi = -offset x phi := neg_div _ _

theorem offset_footpoint_neg (x phi : ℝ) : offset x (-phi) = offset x phi := by
  simp only [offset, primeVertical_neg]

theorem latitude_offset_neg (phi d : ℝ) : latitude phi (-d) = latitude phi d := by
  have fourth : (-d) ^ 4 = d ^ 4 := Even.neg_pow (by decide) d
  have sixth : (-d) ^ 6 = d ^ 6 := Even.neg_pow (by decide) d
  simp only [latitude, neg_sq, fourth, sixth]

theorem latitude_neg (phi d : ℝ) : latitude (-phi) d = -latitude phi d := by
  simp only [latitude, primeVertical_neg, meridional_neg, t1_neg, c1_neg, tan_neg]
  rw [mul_neg, neg_div, neg_mul, neg_sub']

theorem eastward_offset_neg (phi d : ℝ) : eastward phi (-d) = -eastward phi d := by
  have third : (-d) ^ 3 = -d ^ 3 := Odd.neg_pow (by decide) d
  have fifth : (-d) ^ 5 = -d ^ 5 := Odd.neg_pow (by decide) d
  simp only [eastward, third, fifth, mul_neg, neg_div]
  rw [← neg_sub', ← neg_add, neg_div]

theorem eastward_neg (phi d : ℝ) : eastward (-phi) d = eastward phi d := by
  simp only [eastward, t1_neg, c1_neg, cos_neg]

theorem longitude_eq (x y : ℝ) (zone : Nat) :
    (projected x y zone).2.toReal =
      centralMeridian zone + eastward (footpoint (rectifying y))
        (offset x (footpoint (rectifying y))) * (180 / π) := by
  have turned : centralMeridian zone * (π / 180) * (180 / π) = centralMeridian zone := by
    have nonzero := pi_ne_zero
    field_simp
  show (centralMeridian zone * (π / 180) + eastward _ _) * (180 / π) = _
  rw [add_mul, turned]

/-- Opposite offsets: one latitude, and longitudes mirrored at the central meridian. -/
theorem projected_offset_neg (x y : ℝ) (zone : Nat) :
    (projected (-x) y zone).1 = (projected x y zone).1 ∧
      (projected (-x) y zone).2.toReal - centralMeridian zone =
        centralMeridian zone - (projected x y zone).2.toReal := by
  constructor
  · simp only [projected, offset_neg, latitude_offset_neg]
  · simp only [longitude_eq, offset_neg, eastward_offset_neg, neg_mul]
    abel

/-- Opposite distances from the equator: opposite latitudes, and one longitude. -/
theorem projected_neg (x y : ℝ) (zone : Nat) :
    (projected x (-y) zone).1.toReal = -(projected x y zone).1.toReal ∧
      (projected x (-y) zone).2 = (projected x y zone).2 := by
  simp only [projected, rectifying_neg, footpoint_neg, offset_footpoint_neg, latitude_neg,
    eastward_neg, and_true]
  exact neg_mul _ _

theorem projected_meridian (y : ℝ) (zone : Nat) :
    (projected 0 y zone).2.toReal = centralMeridian zone := by
  have still : ∀ phi, eastward phi (offset 0 phi) = 0 := by
    intro phi
    simp [eastward, offset]
  rw [longitude_eq, still, zero_mul, add_zero]

end Utm

open Utm

theorem utmToLatlon_east (d northing : Reals) (zone : Nat) (northern : Bool) :
    utmToLatlon (500000.0 + d) northing zone northern =
      projected d.toReal
        (if northern then northing.toReal else northing.toReal - 10000000.0) zone := by
  have off : (500000.0 + d : Reals).toReal - 500000.0 = d.toReal :=
    add_sub_cancel_left (500000.0 : ℝ) d.toReal
  rw [utmToLatlon_eq, off]

theorem utmToLatlon_west (d northing : Reals) (zone : Nat) (northern : Bool) :
    utmToLatlon (500000.0 - d) northing zone northern =
      projected (-d.toReal)
        (if northern then northing.toReal else northing.toReal - 10000000.0) zone := by
  have off : (500000.0 - d : Reals).toReal - 500000.0 = -d.toReal :=
    sub_sub_cancel_left (500000.0 : ℝ) d.toReal
  rw [utmToLatlon_eq, off]

theorem utmToLatlon_south (easting northing : Reals) (zone : Nat) :
    utmToLatlon easting (10000000.0 - northing) zone false =
      projected (easting.toReal - 500000.0) (-northing.toReal) zone := by
  have below : (10000000.0 - northing : Reals).toReal - 10000000.0 = -northing.toReal :=
    sub_sub_cancel_left (10000000.0 : ℝ) northing.toReal
  rw [utmToLatlon_eq, if_neg (by decide), below]

/-- The symmetries of the grid: about the central meridian of a zone, and about the equator
with the false northing of the southern hemisphere. -/
theorem utm_symmetries (zone : Nat) :
    (∀ (d northing : Reals) (northern : Bool),
      (utmToLatlon (500000.0 - d) northing zone northern).1 =
        (utmToLatlon (500000.0 + d) northing zone northern).1 ∧
      (utmToLatlon (500000.0 - d) northing zone northern).2.toReal - centralMeridian zone =
        centralMeridian zone -
          (utmToLatlon (500000.0 + d) northing zone northern).2.toReal) ∧
    (∀ easting northing : Reals,
      (utmToLatlon easting (10000000.0 - northing) zone false).1.toReal =
        -(utmToLatlon easting northing zone true).1.toReal ∧
      (utmToLatlon easting (10000000.0 - northing) zone false).2 =
        (utmToLatlon easting northing zone true).2) ∧
    ∀ (northing : Reals) (northern : Bool),
      (utmToLatlon 500000.0 northing zone northern).2.toReal = centralMeridian zone := by
  refine ⟨?_, ?_, ?_⟩
  · intro d northing northern
    rw [utmToLatlon_west, utmToLatlon_east]
    exact projected_offset_neg _ _ zone
  · intro easting northing
    rw [utmToLatlon_south, utmToLatlon_eq, if_pos rfl]
    exact projected_neg _ _ zone
  · intro northing northern
    have middle : (500000.0 : Reals).toReal - 500000.0 = 0 := sub_self (500000.0 : ℝ)
    rw [utmToLatlon_eq, middle]
    exact projected_meridian _ zone

end PeatSapient
