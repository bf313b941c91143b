import PeatSapient.Schema

/-! transform/status.rs -/

namespace PeatSapient

variable {F : Type} [FloatOps F]

def systemToHealth (system : Int) : HealthStatus :=
  match (System.tryFrom system).getD .unspecified with
  | .ok => .nominal
  | .warning => .degraded
  | .error => .critical
  | .goodbye => .failed
  | .unspecified => .unspecified

def systemToOperationalStatus (system : Int) : OperationalStatus :=
  match (System.tryFrom system).getD .unspecified with
  | .ok => .ready
  | .warning => .degraded
  | .error | .goodbye => .offline
  | .unspecified => .unspecified

def locationToPosition (loc : Location F) : Option (Position F) :=
  match loc.x, loc.y with
  | some x, some y =>
      match LocationCoordinateSystem.tryFrom (loc.coordinateSystem.getD 0) with
      | some .latLngDegM =>
          some { latitude := y, longitude := x, altitude := loc.z.getD 0.0 }
      | some .latLngRadM =>
          some {
            latitude := FloatOps.toDegrees y
            longitude := FloatOps.toDegrees x
            altitude := loc.z.getD 0.0 }
      | _ => none
  | _, _ => none

def batteryPercent (msg : StatusReport F) : Nat :=
  (min (((msg.power.bind Power.level).getD 0)) 100).toNat

def nodeStateOf (msg : StatusReport F) : NodeState F where
  position := msg.nodeLocation.bind locationToPosition
  fuelMinutes := batteryPercent msg
  health := systemToHealth (msg.system.getD 0)
  phase := .hierarchy

-- A capability delta is emitted whenever a field of view or a mode is present.
def capabilityDelta (nodeId : String) (msg : StatusReport F) :
    Option (CapabilityAdvertisement F) :=
  if msg.fieldOfView.isSome || msg.mode.isSome then
    let power := FloatOps.asF32 (FloatOps.ofNat (batteryPercent msg) / 100.0)
    some {
      nodeId := nodeId
      capabilities := []
      resources := some {
        computeUtilization := 0.0
        memoryUtilization := 0.0
        powerLevel := power
        storageUtilization := 0.0
        bandwidthUtilization := 0.0
        extraJson := "" }
      operationalStatus := systemToOperationalStatus (msg.system.getD 0) }
  else none

def fromStatusReport (nodeId : String) (msg : StatusReport F) :
    NodeState F × Option (CapabilityAdvertisement F) :=
  (nodeStateOf msg, capabilityDelta nodeId msg)

end PeatSapient
