import PeatSapient.Error
import PeatSapient.Schema
import PeatSapient.Transform.Attributes

/-! transform/detection.rs: coordinates, then the report itself. -/

namespace PeatSapient

variable {F : Type} [FloatOps F]

open FloatOps (asF32 toRadians toDegrees sin cos tan sqrt atan2 powi powf)

def feetToMetres : F := 0.3048
def kmToMetres : F := 1000.0

def cepFromErrorsM (sigmaX sigmaY : F) : F := asF32 (0.5887 * (sigmaX + sigmaY))

def wgs84A : F := 6378137.0
def wgs84F : F := 1.0 / 298.257223563
def wgs84E2 : F := 2.0 * wgs84F - wgs84F * wgs84F
def wgs84EPrime2 : F := wgs84E2 / (1.0 - wgs84E2)
def utmK0 : F := 0.9996

def locationErrorsToM (xErr yErr latDeg : F) (rawCs : Int) : F × F :=
  let lat := toRadians latDeg
  match rawCs with
  | 1 | 3 => (toRadians xErr * wgs84A * cos lat, toRadians yErr * wgs84A)
  | 2 | 4 => (xErr * wgs84A * cos lat, yErr * wgs84A)
  | 5 => (xErr, yErr)
  | _ => (0.0, 0.0)

/-- Range in metres, azimuth and elevation in degrees, range error in metres. -/
structure NormalizedRb (F : Type) where
  range : F
  azimuth : F
  elevation : F
  rangeError : F

def normalizeRb (rb : RangeBearing F) : Except SapientError (NormalizedRb F) :=
  match rb.range with
  | none => .error (.mappingError "range_bearing" "RangeBearing.range missing")
  | some range =>
  match rb.azimuth with
  | none => .error (.mappingError "range_bearing" "RangeBearing.azimuth missing")
  | some azimuth =>
  let elevation := rb.elevation.getD 0.0
  let rangeError := rb.rangeError.getD 0.0
  let rawCs := rb.coordinateSystem.getD 0
  -- Values 5 and 6 are the deprecated feet variants, outside the enum.
  if rawCs = 5 then
    .ok ⟨range * feetToMetres, azimuth, elevation, rangeError * feetToMetres⟩
  else if rawCs = 6 then
    .ok ⟨range * feetToMetres, toDegrees azimuth, toDegrees elevation,
      rangeError * feetToMetres⟩
  else match (RangeBearingCoordinateSystem.tryFrom rawCs).getD .unspecified with
    | .degreesM => .ok ⟨range, azimuth, elevation, rangeError⟩
    | .radiansM => .ok ⟨range, toDegrees azimuth, toDegrees elevation, rangeError⟩
    | .degreesKm => .ok ⟨range * kmToMetres, azimuth, elevation, rangeError * kmToMetres⟩
    | .radiansKm =>
        .ok ⟨range * kmToMetres, toDegrees azimuth, toDegrees elevation,
          rangeError * kmToMetres⟩
    | .unspecified =>
        .error (.unsupportedCoordinateSystem "unspecified range-bearing coordinate system")

def utmToLatlon (easting northing : F) (zoneNumber : Nat) (northern : Bool) : F × F :=
  let x := easting - 500000.0
  let y := if northern then northing else northing - 10000000.0
  let lon0 := toRadians ((FloatOps.ofNat zoneNumber - 1.0) * 6.0 - 180.0 + 3.0)
  let m := y / utmK0
  let mu := m / (wgs84A * (1.0 - wgs84E2 / 4.0 - 3.0 * powi wgs84E2 2 / 64.0
    - 5.0 * powi wgs84E2 3 / 256.0))
  let e1 : F := (1.0 - sqrt (1.0 - wgs84E2)) / (1.0 + sqrt (1.0 - wgs84E2))
  let phi1 := mu
    + (3.0 * e1 / 2.0 - 27.0 * powi e1 3 / 32.0) * sin (2.0 * mu)
    + (21.0 * powi e1 2 / 16.0 - 55.0 * powi e1 4 / 32.0) * sin (4.0 * mu)
    + (151.0 * powi e1 3 / 96.0) * sin (6.0 * mu)
    + (1097.0 * powi e1 4 / 512.0) * sin (8.0 * mu)
  let sinPhi1 := sin phi1
  let cosPhi1 := cos phi1
  let tanPhi1 := tan phi1
  let n1 := wgs84A / sqrt (1.0 - wgs84E2 * powi sinPhi1 2)
  let t1 := powi tanPhi1 2
  let c1 := wgs84EPrime2 * powi cosPhi1 2
  let r1 := wgs84A * (1.0 - wgs84E2) / powf (1.0 - wgs84E2 * powi sinPhi1 2) 1.5
  let d := x / (n1 * utmK0)
  let lat := phi1 - (n1 * tanPhi1 / r1) *
    (powi d 2 / 2.0
      - (5.0 + 3.0 * t1 + 10.0 * c1 - 4.0 * powi c1 2 - 9.0 * wgs84EPrime2) * powi d 4 / 24.0
      + (61.0 + 90.0 * t1 + 298.0 * c1 + 45.0 * powi t1 2 - 252.0 * wgs84EPrime2
        - 3.0 * powi c1 2) * powi d 6 / 720.0)
  let lon := lon0 + (d - (1.0 + 2.0 * t1 + c1) * powi d 3 / 6.0
      + (5.0 - 2.0 * c1 + 28.0 * t1 - 3.0 * powi c1 2 + 8.0 * wgs84EPrime2
        + 24.0 * powi t1 2) * powi d 5 / 120.0) / cosPhi1
  (toDegrees lat, toDegrees lon)

def isWhitespace (char : Char) : Bool :=
  let code := char.toNat
  (decide (9 ≤ code) && decide (code ≤ 13)) || code == 32 || code == 0x85 || code == 0xA0 ||
    code == 0x1680 || (decide (0x2000 ≤ code) && decide (code ≤ 0x200A)) ||
    code == 0x2028 || code == 0x2029 || code == 0x202F || code == 0x205F || code == 0x3000

def trim (text : List Char) : List Char :=
  ((text.dropWhile isWhitespace).reverse.dropWhile isWhitespace).reverse

def digitValue (char : Char) : Option Nat :=
  if '0' ≤ char ∧ char ≤ '9' then some (char.toNat - '0'.toNat) else none

def parseDigits : Nat → List Char → Option Nat
  | value, [] => some value
  | value, char :: rest =>
      match digitValue char with
      | none => none
      | some digit =>
          if value * 10 + digit < 256 then parseDigits (value * 10 + digit) rest else none

/-- `str::parse::<u8>`: one leading plus sign is allowed, an empty number is not. -/
def parseU8 (text : List Char) : Option Nat :=
  match text with
  | [] => none
  | ['+'] => none
  | '+' :: digits => parseDigits 0 digits
  | digits => parseDigits 0 digits

def parseUtmZone (zone : String) : Option (Nat × Bool) :=
  let s := trim zone.toList
  match s.getLast? with
  | none => none
  | some letter =>
      match parseU8 s.dropLast with
      | none => none
      | some zoneNum =>
          if 1 ≤ zoneNum ∧ zoneNum ≤ 60 then
            some (zoneNum, ['N', 'P', 'Q', 'R', 'S', 'T', 'U', 'V', 'W', 'X'].contains
              letter.toUpper)
          else none

/-- The pair every coordinate system ends with: the horizontal error is derived
from the latitude, the other error fields from the vertical one. -/
def resolved (latitude longitude altitude xErr yErr vertical : F) (rawCs : Int) :
    TrackPosition F × PositionError F :=
  let errors := locationErrorsToM xErr yErr latitude rawCs
  let cep := cepFromErrorsM errors.1 errors.2
  (⟨latitude, longitude, altitude, cep, vertical⟩, ⟨cep, 0.0, vertical⟩)

def locationToTrackPosition (loc : Location F) :
    Except SapientError (TrackPosition F × PositionError F) :=
  match loc.x with
  | none => .error (.mappingError "location" "Location.x missing")
  | some x =>
  match loc.y with
  | none => .error (.mappingError "location" "Location.y missing")
  | some y =>
  let z := loc.z.getD 0.0
  let xErr := loc.xError.getD 0.0
  let yErr := loc.yError.getD 0.0
  let zErr := loc.zError.getD 0.0
  let rawCs := loc.coordinateSystem.getD 0
  -- Values 3 and 4 are the deprecated feet variants, outside the enum.
  if rawCs = 3 then
    .ok (resolved y x (asF32 (z * feetToMetres)) xErr yErr (asF32 (zErr * feetToMetres)) rawCs)
  else if rawCs = 4 then
    .ok (resolved (toDegrees y) (toDegrees x) (asF32 (z * feetToMetres)) xErr yErr
      (asF32 (zErr * feetToMetres)) rawCs)
  else match (LocationCoordinateSystem.tryFrom rawCs).getD .unspecified with
    | .latLngDegM => .ok (resolved y x (asF32 z) xErr yErr (asF32 zErr) rawCs)
    | .latLngRadM =>
        .ok (resolved (toDegrees y) (toDegrees x) (asF32 z) xErr yErr (asF32 zErr) rawCs)
    | .utmM =>
        match loc.utmZone with
        | none => .error (.mappingError "location" "UTM location missing utm_zone")
        | some zone =>
            match parseUtmZone zone with
            | none => .error (.mappingError "location" ("invalid utm_zone: " ++ zone))
            | some (zoneNum, northern) =>
                let position := utmToLatlon x y zoneNum northern
                .ok (resolved position.1 position.2 (asF32 z) xErr yErr (asF32 zErr) rawCs)
    | .unspecified => .error (.unsupportedCoordinateSystem "unspecified coordinate system")

def rangeBearingToTrackPosition (rb : RangeBearing F) (sensor : TrackPosition F) :
    Except SapientError (TrackPosition F × PositionError F) :=
  match normalizeRb rb with
  | .error failure => .error failure
  | .ok normalized =>
      let az := toRadians normalized.azimuth
      let el := toRadians normalized.elevation
      let horiz := normalized.range * cos el
      let north := horiz * cos az
      let east := horiz * sin az
      let up := normalized.range * sin el
      let latDegPerM := 1.0 / 111111.0
      let lonDegPerM := 1.0 / (111111.0 * cos (toRadians sensor.latitude))
      let cep := asF32 normalized.rangeError
      .ok (⟨sensor.latitude + north * latDegPerM, sensor.longitude + east * lonDegPerM,
        asF32 (sensor.altitude + asF32 up), cep, 0.0⟩, ⟨cep, 0.0, 0.0⟩)

def enuToVelocity (enu : EnuVelocity F) : Velocity F :=
  let east := enu.eastRate.getD 0.0
  let north := enu.northRate.getD 0.0
  let up := enu.upRate.getD 0.0
  let bearingDeg := asF32 (toDegrees (atan2 east north))
  { bearing := if FloatOps.lt bearingDeg 0.0 then asF32 (bearingDeg + 360.0) else bearingDeg
    speedMps := asF32 (sqrt (east * east + north * north))
    verticalSpeedMps := asF32 up }

def detectionAttributes (msg : DetectionReport F) : Attributes :=
  (match msg.colour with
    | some colour => [("colour", .string colour)]
    | none => []) ++
  (match msg.id with
    | some id => [("id", .string id)]
    | none => []) ++
  (if msg.behaviour.isEmpty then []
    else [("behaviours", .array (msg.behaviour.filterMap Behaviour.type))])

def detectionPosition (sensorPosition : Option (TrackPosition F)) (msg : DetectionReport F) :
    Except SapientError (TrackPosition F × PositionError F) :=
  match msg.locationOneof with
  | some (.location loc) => locationToTrackPosition loc
  | some (.rangeBearing rb) =>
      match sensorPosition with
      | none =>
          .error (.unsupportedCoordinateSystem "range-bearing requires sensor position")
      | some sensor => rangeBearingToTrackPosition rb sensor
  | none => .error (.mappingError "detection" "DetectionReport has no location")

def trackOf (nodeId : String) (msg : DetectionReport F) (position : TrackPosition F)
    (positionError : PositionError F) : Track F where
  trackId := msg.objectId.getD ""
  classification := (msg.classification.head?.bind
    DetectionReportClassification.type).getD ""
  confidence := (msg.classification.head?.bind
    DetectionReportClassification.confidence).getD 0.0
  position := some position
  velocity := msg.velocityOneof.map enuToVelocity
  positionError := some positionError
  state := .confirmed
  source := some {
    nodeId := nodeId
    sensorId := msg.reportId.getD ""
    modelVersion := ""
    sourceType := .sensor }
  attributesJson := (detectionAttributes msg).print
  firstSeen := none
  lastSeen := none
  observationCount := 1

def fromDetectionReport (nodeId : String) (sensorPosition : Option (TrackPosition F))
    (msg : DetectionReport F) : Except SapientError (Track F) :=
  match detectionPosition sensorPosition msg with
  | .error failure => .error failure
  | .ok (position, positionError) => .ok (trackOf nodeId msg position positionError)

/-- The sensor position matters to a range-bearing report only. -/
theorem fromDetectionReport_location (nodeId : String)
    (sensorPosition other : Option (TrackPosition F)) (dr : DetectionReport F)
    (absolute : ∀ rb, dr.locationOneof ≠ some (.rangeBearing rb)) :
    fromDetectionReport nodeId sensorPosition dr = fromDetectionReport nodeId other dr := by
  have same : detectionPosition sensorPosition dr = detectionPosition other dr := by
    unfold detectionPosition
    split
    · rfl
    · next rb found => exact absurd found (absolute rb)
    · rfl
  unfold fromDetectionReport
  rw [same]

end PeatSapient
