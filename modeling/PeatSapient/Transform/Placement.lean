import Mathlib.Analysis.SpecialFunctions.Trigonometric.Basic
import PeatSapient.Numeric.Reals
import PeatSapient.Transform.Detection

/-! Where a range-bearing measurement is placed, over exact real arithmetic. The offset is
added to the sensor's coordinates as it is, so it may lead past a pole or past the
antimeridian. -/

namespace PeatSapient

open Real

structure ValidWgs84 (pos : TrackPosition Reals) : Prop where
  south : -90 ≤ pos.latitude.toReal
  north : pos.latitude.toReal ≤ 90
  west : -180 ≤ pos.longitude.toReal
  east : pos.longitude.toReal ≤ 180

namespace NormalizedRb

variable (measured : NormalizedRb Reals)

noncomputable def reach : ℝ :=
  measured.range.toReal * cos (FloatOps.toRadians measured.elevation).toReal

noncomputable def heading : ℝ := (FloatOps.toRadians measured.azimuth).toReal

end NormalizedRb

namespace TrackPosition

variable (sensor : TrackPosition Reals)

noncomputable def metresPerDegree : ℝ :=
  111111 * cos (FloatOps.toRadians sensor.latitude).toReal

noncomputable def metresToParallel (degrees : ℝ) : ℝ :=
  (degrees - sensor.latitude.toReal) * 111111

noncomputable def metresToMeridian (degrees : ℝ) : ℝ :=
  (degrees - sensor.longitude.toReal) * sensor.metresPerDegree

end TrackPosition

/-- The measured point is before the poles and before the antimeridian. -/
structure WithinEdges (sensor : TrackPosition Reals) (measured : NormalizedRb Reals) : Prop where
  north : measured.reach * cos measured.heading ≤ sensor.metresToParallel 90
  south : sensor.metresToParallel (-90) ≤ measured.reach * cos measured.heading
  east : measured.reach * sin measured.heading ≤ sensor.metresToMeridian 180
  west : sensor.metresToMeridian (-180) ≤ measured.reach * sin measured.heading

theorem metresPerDegree_pos {sensor : TrackPosition Reals}
    (above : -90 < sensor.latitude.toReal) (below : sensor.latitude.toReal < 90) :
    0 < sensor.metresPerDegree := by
  have positive := pi_pos
  have upright : 0 < cos (FloatOps.toRadians sensor.latitude).toReal := by
    show 0 < cos (sensor.latitude.toReal * (π / 180))
    apply cos_pos_of_mem_Ioo
    constructor <;> nlinarith
  unfold TrackPosition.metresPerDegree
  positivity

theorem placed_coordinates {rb : RangeBearing Reals} {sensor : TrackPosition Reals}
    {measured : NormalizedRb Reals} {pos : TrackPosition Reals} {error : PositionError Reals}
    (normalized : normalizeRb rb = .ok measured)
    (placed : rangeBearingToTrackPosition rb sensor = .ok (pos, error)) :
    pos.latitude.toReal =
        sensor.latitude.toReal + measured.reach * cos measured.heading / 111111 ∧
      pos.longitude.toReal =
        sensor.longitude.toReal +
          measured.reach * sin measured.heading / sensor.metresPerDegree := by
  have unit : (111111.0 : ℝ) = 111111 := by norm_num
  have one : (1.0 : ℝ) = 1 := by norm_num
  simp only [rangeBearingToTrackPosition, normalized] at placed
  cases placed
  constructor
  · show sensor.latitude.toReal + measured.reach * cos measured.heading *
      ((1.0 : ℝ) / (111111.0 : ℝ)) = _
    rw [unit, one, mul_one_div]
  · show sensor.longitude.toReal + measured.reach * sin measured.heading *
      ((1.0 : ℝ) / ((111111.0 : ℝ) * cos (FloatOps.toRadians sensor.latitude).toReal)) = _
    rw [unit, one, mul_one_div, TrackPosition.metresPerDegree]

/-- A step of so many metres keeps a coordinate on its side of a bound exactly where it is
on its side of the way to it. -/
theorem step_within_iff (start step bound : ℝ) {unit : ℝ} (positive : 0 < unit) :
    (start + step / unit ≤ bound ↔ step ≤ (bound - start) * unit) ∧
      (bound ≤ start + step / unit ↔ (bound - start) * unit ≤ step) := by
  constructor
  · rw [← div_le_iff₀ positive]
    constructor <;> intro order <;> linarith
  · rw [← le_div_iff₀ positive]
    constructor <;> intro order <;> linarith

/-- A placed measurement has valid coordinates exactly where it stays before the edges. -/
theorem valid_iff_withinEdges {rb : RangeBearing Reals} {sensor : TrackPosition Reals}
    {measured : NormalizedRb Reals} {pos : TrackPosition Reals} {error : PositionError Reals}
    (above : -90 < sensor.latitude.toReal) (below : sensor.latitude.toReal < 90)
    (normalized : normalizeRb rb = .ok measured)
    (placed : rangeBearingToTrackPosition rb sensor = .ok (pos, error)) :
    ValidWgs84 pos ↔ WithinEdges sensor measured := by
  obtain ⟨latitude, longitude⟩ := placed_coordinates normalized placed
  have metre : (0 : ℝ) < 111111 := by norm_num
  have vertical := step_within_iff sensor.latitude.toReal
    (measured.reach * cos measured.heading)
  have horizontal := step_within_iff sensor.longitude.toReal
    (measured.reach * sin measured.heading)
  have parallel := metresPerDegree_pos above below
  have north := (vertical 90 metre).1
  have south := (vertical (-90) metre).2
  have east := (horizontal 180 parallel).1
  have west := (horizontal (-180) parallel).2
  rw [← latitude] at north south
  rw [← longitude] at east west
  constructor
  · intro valid
    exact ⟨north.mp valid.north, south.mp valid.south, east.mp valid.east, west.mp valid.west⟩
  · intro within
    exact ⟨south.mpr within.south, north.mpr within.north, west.mpr within.west,
      east.mpr within.east⟩

/-- The range that the flat-earth approximation is meant for, in metres. -/
def documentedRange : ℝ := 50000

/-- No edge is within that range of the sensor. -/
structure FarFromEdges (sensor : TrackPosition Reals) : Prop where
  north : documentedRange ≤ sensor.metresToParallel 90
  south : sensor.metresToParallel (-90) ≤ -documentedRange
  east : documentedRange ≤ sensor.metresToMeridian 180
  west : sensor.metresToMeridian (-180) ≤ -documentedRange

theorem component_le {measured : NormalizedRb Reals} {part : ℝ}
    (positive : 0 ≤ measured.range.toReal) (unit : |part| ≤ 1) :
    |measured.reach * part| ≤ measured.range.toReal := by
  have level := abs_cos_le_one (FloatOps.toRadians measured.elevation).toReal
  rw [NormalizedRb.reach, abs_mul, abs_mul, abs_of_nonneg positive, mul_assoc]
  have product := mul_le_one₀ level (abs_nonneg part) unit
  exact mul_le_of_le_one_right positive product

theorem FarFromEdges.within {sensor : TrackPosition Reals} (far : FarFromEdges sensor)
    {measured : NormalizedRb Reals} (positive : 0 ≤ measured.range.toReal)
    (short : measured.range.toReal ≤ documentedRange) : WithinEdges sensor measured := by
  have north := abs_le.mp (component_le positive (abs_cos_le_one measured.heading))
  have east := abs_le.mp (component_le positive (abs_sin_le_one measured.heading))
  have reaches := far.north
  have drops := far.south
  have eastern := far.east
  have western := far.west
  constructor <;> linarith

noncomputable def measurementAt (azimuth : ℝ) : RangeBearing Reals where
  range := some (.ofReal documentedRange)
  azimuth := some (.ofReal azimuth)
  coordinateSystem := some 1

noncomputable def measuredAt (azimuth : ℝ) : NormalizedRb Reals :=
  ⟨.ofReal documentedRange, .ofReal azimuth, 0.0, 0.0⟩

theorem normalizeRb_measurementAt (azimuth : ℝ) :
    normalizeRb (measurementAt azimuth) = .ok (measuredAt azimuth) := rfl

theorem reach_measuredAt (azimuth : ℝ) : (measuredAt azimuth).reach = documentedRange := by
  have level : (FloatOps.toRadians (measuredAt azimuth).elevation).toReal = 0 :=
    Reals.toRadians_zero.trans Reals.zero_eq
  have range : (measuredAt azimuth).range.toReal = documentedRange := rfl
  rw [NormalizedRb.reach, level, range, cos_zero, mul_one]

theorem heading_measuredAt (azimuth : ℝ) :
    (measuredAt azimuth).heading = azimuth * (π / 180) := rfl

theorem heading_east : (measuredAt 90).heading = π / 2 := by
  rw [heading_measuredAt]
  ring

/-- Measurements to the four sides tell how far the edges are. -/
theorem farFromEdges_of_within {sensor : TrackPosition Reals}
    (within : ∀ azimuth, WithinEdges sensor (measuredAt azimuth)) : FarFromEdges sensor := by
  have half : (180 : ℝ) * (π / 180) = π := by ring
  have back : (-90 : ℝ) * (π / 180) = -(π / 2) := by ring
  constructor
  · simpa [reach_measuredAt, heading_measuredAt] using (within 0).north
  · simpa [reach_measuredAt, heading_measuredAt, half] using (within 180).south
  · simpa [reach_measuredAt, heading_east] using (within 90).east
  · simpa [reach_measuredAt, heading_measuredAt, back] using (within (-90)).west

theorem placed_measurementAt (azimuth : ℝ) (sensor : TrackPosition Reals) :
    ∃ pos error, rangeBearingToTrackPosition (measurementAt azimuth) sensor = .ok (pos, error) :=
  ⟨_, _, rfl⟩

/-- A placed measurement is valid exactly where it stays before the edges; and all those of
the documented range are valid exactly for the sensors that are as far from every edge. -/
theorem placed_valid_iff {sensor : TrackPosition Reals}
    (above : -90 < sensor.latitude.toReal) (below : sensor.latitude.toReal < 90) :
    (∀ rb measured pos error, normalizeRb rb = .ok measured →
      rangeBearingToTrackPosition rb sensor = .ok (pos, error) →
        (ValidWgs84 pos ↔ WithinEdges sensor measured)) ∧
    ((∀ rb measured pos error, normalizeRb rb = .ok measured →
        rangeBearingToTrackPosition rb sensor = .ok (pos, error) →
          0 ≤ measured.range.toReal → measured.range.toReal ≤ documentedRange →
            ValidWgs84 pos) ↔ FarFromEdges sensor) := by
  constructor
  · intro rb measured pos error normalized placed
    exact valid_iff_withinEdges above below normalized placed
  constructor
  · intro valid
    apply farFromEdges_of_within
    intro azimuth
    obtain ⟨pos, error, placed⟩ := placed_measurementAt azimuth sensor
    have normalized := normalizeRb_measurementAt azimuth
    apply (valid_iff_withinEdges above below normalized placed).mp
    apply valid _ _ _ _ normalized placed
    · exact (by norm_num [documentedRange] : (0 : ℝ) ≤ documentedRange)
    · exact le_refl documentedRange
  · intro far rb measured pos error normalized placed positive short
    exact (valid_iff_withinEdges above below normalized placed).mpr (far.within positive short)

noncomputable def equatorial (longitude : ℝ) : TrackPosition Reals :=
  ⟨.ofReal 0, .ofReal longitude, 0.0, 0.0, 0.0⟩

theorem equatorial_between (longitude : ℝ) :
    -90 < (equatorial longitude).latitude.toReal ∧
      (equatorial longitude).latitude.toReal < 90 := by
  show (-90 : ℝ) < 0 ∧ (0 : ℝ) < 90
  norm_num

theorem metresPerDegree_equatorial (longitude : ℝ) :
    (equatorial longitude).metresPerDegree = 111111 := by
  have level : (FloatOps.toRadians (equatorial longitude).latitude).toReal = 0 :=
    zero_mul (π / 180)
  rw [TrackPosition.metresPerDegree, level, cos_zero, mul_one]

theorem placed_valid_iff_equatorial :
    ∃ pos error, rangeBearingToTrackPosition (measurementAt 90) (equatorial 0) =
      .ok (pos, error) ∧ ValidWgs84 pos := by
  obtain ⟨above, below⟩ := equatorial_between 0
  have parallel := metresPerDegree_equatorial 0
  have latitude : (equatorial 0).latitude.toReal = 0 := rfl
  have longitude : (equatorial 0).longitude.toReal = 0 := rfl
  have far : FarFromEdges (equatorial 0) := by
    constructor <;>
      norm_num [TrackPosition.metresToParallel, TrackPosition.metresToMeridian,
        documentedRange, parallel, latitude, longitude]
  obtain ⟨pos, error, placed⟩ := placed_measurementAt 90 (equatorial 0)
  refine ⟨pos, error, placed, ?_⟩
  apply (placed_valid_iff above below).2.mpr far _ _ _ _ (normalizeRb_measurementAt 90) placed
  · exact (by norm_num [documentedRange] : (0 : ℝ) ≤ documentedRange)
  · exact le_refl documentedRange

/-- From the antimeridian, a measurement to the east is placed beyond 180 degrees. -/
theorem antimeridian_crossed :
    ∃ sensor rb pos error, sensor = equatorial 180 ∧ rb = measurementAt 90 ∧
      rangeBearingToTrackPosition rb sensor = .ok (pos, error) ∧ ¬ ValidWgs84 pos := by
  obtain ⟨pos, error, placed⟩ := placed_measurementAt 90 (equatorial 180)
  refine ⟨_, _, pos, error, rfl, rfl, placed, ?_⟩
  intro valid
  have edge : (equatorial 180).metresToMeridian 180 = 0 := by
    show (180 - 180 : ℝ) * _ = 0
    rw [sub_self, zero_mul]
  obtain ⟨above, below⟩ := equatorial_between 180
  have within := (valid_iff_withinEdges above below (normalizeRb_measurementAt 90) placed).mp valid
  have east := within.east
  rw [reach_measuredAt, heading_east, sin_pi_div_two, edge] at east
  norm_num [documentedRange] at east

end PeatSapient
