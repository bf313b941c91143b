import PeatSapient.Numeric.Reals
import PeatSapient.Transform.Detection

/-! Positions under a change of the sender's units. A quantity is written in an angle unit
and a length unit, which together are the coordinate system; what the transforms make of it
depends on the quantity alone. -/

namespace PeatSapient

inductive AngleUnit where
  | degrees
  | radians
  deriving DecidableEq, Repr

inductive LengthUnit where
  | metres
  | kilometres
  | feet
  deriving DecidableEq, Repr

section Conversions

variable {F : Type} [FloatOps F]

def AngleUnit.inDegrees : AngleUnit → F → F
  | .degrees, value => value
  | .radians, value => FloatOps.toDegrees value

def AngleUnit.inRadians : AngleUnit → F → F
  | .degrees, value => FloatOps.toRadians value
  | .radians, value => value

def LengthUnit.inMetres : LengthUnit → F → F
  | .metres, value => value
  | .kilometres, value => value * 1000.0
  | .feet, value => value * 0.3048

def AngleUnit.convert : AngleUnit → AngleUnit → F → F
  | .degrees, .degrees, value => value
  | .degrees, .radians, value => FloatOps.toRadians value
  | .radians, .degrees, value => FloatOps.toDegrees value
  | .radians, .radians, value => value

def LengthUnit.convert (source target : LengthUnit) (value : F) : F :=
  match target with
  | .metres => source.inMetres value
  | .kilometres => source.inMetres value / 1000.0
  | .feet => source.inMetres value / 0.3048

/-- The six range-bearing coordinate systems, under their raw values. -/
def rangeBearingSystem : AngleUnit → LengthUnit → Int
  | .degrees, .metres => 1
  | .radians, .metres => 2
  | .degrees, .kilometres => 3
  | .radians, .kilometres => 4
  | .degrees, .feet => 5
  | .radians, .feet => 6

inductive AltitudeUnit where
  | metres
  | feet
  deriving DecidableEq, Repr

def AltitudeUnit.length : AltitudeUnit → LengthUnit
  | .metres => .metres
  | .feet => .feet

def locationSystem : AngleUnit → AltitudeUnit → Int
  | .degrees, .metres => 1
  | .radians, .metres => 2
  | .degrees, .feet => 3
  | .radians, .feet => 4

/-- The range-bearing measurement written in other units; absent fields stay absent. -/
def RangeBearing.reexpress (rb : RangeBearing F) (angle angle' : AngleUnit)
    (length length' : LengthUnit) : RangeBearing F :=
  { rb with
    range := rb.range.map (length.convert length')
    azimuth := rb.azimuth.map (angle.convert angle')
    elevation := rb.elevation.map (angle.convert angle')
    rangeError := rb.rangeError.map (length.convert length')
    coordinateSystem := some (rangeBearingSystem angle' length') }

def Location.reexpress (loc : Location F) (angle angle' : AngleUnit)
    (altitude altitude' : AltitudeUnit) : Location F :=
  { loc with
    x := loc.x.map (angle.convert angle')
    y := loc.y.map (angle.convert angle')
    z := loc.z.map (altitude.length.convert altitude'.length)
    xError := loc.xError.map (angle.convert angle')
    yError := loc.yError.map (angle.convert angle')
    zError := loc.zError.map (altitude.length.convert altitude'.length)
    coordinateSystem := some (locationSystem angle' altitude') }

theorem normalizeRb_units (rb : RangeBearing F) (angle : AngleUnit) (length : LengthUnit)
    (here : rb.coordinateSystem = some (rangeBearingSystem angle length)) :
    normalizeRb rb =
      match rb.range, rb.azimuth with
      | none, _ => .error (.mappingError "range_bearing" "RangeBearing.range missing")
      | some _, none => .error (.mappingError "range_bearing" "RangeBearing.azimuth missing")
      | some range, some azimuth =>
          .ok ⟨length.inMetres range, angle.inDegrees azimuth,
            angle.inDegrees (rb.elevation.getD 0.0),
            length.inMetres (rb.rangeError.getD 0.0)⟩ := by
  unfold normalizeRb
  cases rb.range with
  | none => rfl
  | some range =>
      cases rb.azimuth with
      | none => rfl
      | some azimuth => cases angle <;> cases length <;> rw [here] <;> rfl

theorem locationErrorsToM_units (xErr yErr latDeg : F) (angle : AngleUnit)
    (altitude : AltitudeUnit) :
    locationErrorsToM xErr yErr latDeg (locationSystem angle altitude) =
      (angle.inRadians xErr * wgs84A * FloatOps.cos (FloatOps.toRadians latDeg),
        angle.inRadians yErr * wgs84A) := by
  cases angle <;> cases altitude <;> rfl

theorem locationToTrackPosition_units (loc : Location F) (angle : AngleUnit)
    (altitude : AltitudeUnit)
    (here : loc.coordinateSystem = some (locationSystem angle altitude)) :
    locationToTrackPosition loc =
      match loc.x, loc.y with
      | none, _ => .error (.mappingError "location" "Location.x missing")
      | some _, none => .error (.mappingError "location" "Location.y missing")
      | some x, some y =>
          .ok (resolved (angle.inDegrees y) (angle.inDegrees x)
            (FloatOps.asF32 (altitude.length.inMetres (loc.z.getD 0.0)))
            (loc.xError.getD 0.0) (loc.yError.getD 0.0)
            (FloatOps.asF32 (altitude.length.inMetres (loc.zError.getD 0.0)))
            (locationSystem angle altitude)) := by
  unfold locationToTrackPosition
  cases loc.x with
  | none => rfl
  | some x =>
      cases loc.y with
      | none => rfl
      | some y => cases angle <;> cases altitude <;> rw [here] <;> rfl

end Conversions

/-! Over the real numbers a conversion keeps the quantity. -/

theorem kilometre_ne_zero : (1000.0 : Reals).toReal ≠ 0 := by
  have nonzero : (1000.0 : ℝ) ≠ 0 := by norm_num
  exact nonzero

theorem foot_ne_zero : (0.3048 : Reals).toReal ≠ 0 := by
  have nonzero : (0.3048 : ℝ) ≠ 0 := by norm_num
  exact nonzero

@[simp] theorem inDegrees_convert (angle angle' : AngleUnit) (value : Reals) :
    angle'.inDegrees (angle.convert angle' value) = angle.inDegrees value := by
  cases angle <;> cases angle' <;> simp [AngleUnit.inDegrees, AngleUnit.convert]

@[simp] theorem inRadians_convert (angle angle' : AngleUnit) (value : Reals) :
    angle'.inRadians (angle.convert angle' value) = angle.inRadians value := by
  cases angle <;> cases angle' <;> simp [AngleUnit.inRadians, AngleUnit.convert]

@[simp] theorem inMetres_convert (length length' : LengthUnit) (value : Reals) :
    length'.inMetres (length.convert length' value) = length.inMetres value := by
  cases length' with
  | metres => rfl
  | kilometres => exact Reals.div_times _ _ kilometre_ne_zero
  | feet => exact Reals.div_times _ _ foot_ne_zero

@[simp] theorem inDegrees_zero (angle : AngleUnit) : angle.inDegrees (0.0 : Reals) = 0.0 := by
  cases angle <;> simp [AngleUnit.inDegrees]

@[simp] theorem inRadians_zero (angle : AngleUnit) : angle.inRadians (0.0 : Reals) = 0.0 := by
  cases angle <;> simp [AngleUnit.inRadians]

@[simp] theorem inMetres_zero (length : LengthUnit) : length.inMetres (0.0 : Reals) = 0.0 := by
  cases length <;> simp [LengthUnit.inMetres]

/-- An absent field counts as zero in every unit. -/
theorem inDegrees_field (angle angle' : AngleUnit) (field : Option Reals) :
    angle'.inDegrees ((field.map (angle.convert angle')).getD 0.0) =
      angle.inDegrees (field.getD 0.0) := by
  cases field <;> simp

theorem inRadians_field (angle angle' : AngleUnit) (field : Option Reals) :
    angle'.inRadians ((field.map (angle.convert angle')).getD 0.0) =
      angle.inRadians (field.getD 0.0) := by
  cases field <;> simp

theorem inMetres_field (length length' : LengthUnit) (field : Option Reals) :
    length'.inMetres ((field.map (length.convert length')).getD 0.0) =
      length.inMetres (field.getD 0.0) := by
  cases field <;> simp

theorem normalizeRb_reexpress (rb : RangeBearing Reals) (angle angle' : AngleUnit)
    (length length' : LengthUnit)
    (here : rb.coordinateSystem = some (rangeBearingSystem angle length)) :
    normalizeRb (rb.reexpress angle angle' length length') = normalizeRb rb := by
  rw [normalizeRb_units rb angle length here, normalizeRb_units _ angle' length' rfl]
  simp only [RangeBearing.reexpress, inDegrees_field, inMetres_field]
  cases rb.range with
  | none => rfl
  | some range =>
      cases rb.azimuth with
      | none => rfl
      | some azimuth => simp

/-- The errors in metres do not depend on the unit either. -/
theorem resolved_reexpress (latitude longitude altitude vertical : Reals)
    (xError yError : Option Reals) (angle angle' : AngleUnit) (unit unit' : AltitudeUnit) :
    resolved latitude longitude altitude ((xError.map (angle.convert angle')).getD 0.0)
        ((yError.map (angle.convert angle')).getD 0.0) vertical (locationSystem angle' unit') =
      resolved latitude longitude altitude (xError.getD 0.0) (yError.getD 0.0) vertical
        (locationSystem angle unit) := by
  simp only [resolved, locationErrorsToM_units, inRadians_field]

theorem locationToTrackPosition_reexpress (loc : Location Reals) (angle angle' : AngleUnit)
    (altitude altitude' : AltitudeUnit)
    (here : loc.coordinateSystem = some (locationSystem angle altitude)) :
    locationToTrackPosition (loc.reexpress angle angle' altitude altitude') =
      locationToTrackPosition loc := by
  rw [locationToTrackPosition_units loc angle altitude here,
    locationToTrackPosition_units _ angle' altitude' rfl]
  simp only [Location.reexpress, inMetres_field]
  cases loc.x with
  | none => rfl
  | some x =>
      cases loc.y with
      | none => rfl
      | some y =>
          simp only [Option.map_some, inDegrees_convert]
          rw [resolved_reexpress]

/-- A resolved position and its errors are those of the quantities sent, in whichever of the
six range-bearing systems or the four angular location systems they are written. -/
theorem positions_unit_free :
    (∀ (rb : RangeBearing Reals) (sensor : TrackPosition Reals) (angle angle' : AngleUnit)
        (length length' : LengthUnit),
      rb.coordinateSystem = some (rangeBearingSystem angle length) →
        rangeBearingToTrackPosition (rb.reexpress angle angle' length length') sensor =
          rangeBearingToTrackPosition rb sensor) ∧
    ∀ (loc : Location Reals) (angle angle' : AngleUnit) (altitude altitude' : AltitudeUnit),
      loc.coordinateSystem = some (locationSystem angle altitude) →
        locationToTrackPosition (loc.reexpress angle angle' altitude altitude') =
          locationToTrackPosition loc := by
  constructor
  · intro rb sensor angle angle' length length' here
    unfold rangeBearingToTrackPosition
    rw [normalizeRb_reexpress rb angle angle' length length' here]
  · intro loc angle angle' altitude altitude' here
    exact locationToTrackPosition_reexpress loc angle angle' altitude altitude' here

noncomputable def bearingSample : RangeBearing Reals :=
  { range := some 100.0, azimuth := some 45.0, coordinateSystem := some 1 }

noncomputable def locationSample : Location Reals :=
  { x := some 45.0, y := some 51.5, z := some 100.0, coordinateSystem := some 1 }

theorem positions_unit_free_feet :
    rangeBearingToTrackPosition (bearingSample.reexpress .degrees .radians .metres .feet)
        ⟨51.5, 0.0, 0.0, 0.0, 0.0⟩ =
      rangeBearingToTrackPosition bearingSample ⟨51.5, 0.0, 0.0, 0.0, 0.0⟩ ∧
    locationToTrackPosition (locationSample.reexpress .degrees .radians .metres .feet) =
      locationToTrackPosition locationSample :=
  ⟨positions_unit_free.1 bearingSample _ .degrees .radians .metres .feet rfl,
    positions_unit_free.2 locationSample .degrees .radians .metres .feet rfl⟩

end PeatSapient
