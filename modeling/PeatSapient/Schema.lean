import PeatSapient.Proto

/-! The peat-schema types the transforms produce, with the fields some function
of the repository sets or reads. Their enum fields are i32 in that crate and are
read back with `try_from`; here they are the enum itself. -/

namespace PeatSapient

inductive CapabilityType where
  | unspecified
  | sensor
  | compute
  | communication
  | mobility
  | payload
  deriving DecidableEq, Repr

inductive OperationalStatus where
  | unspecified
  | ready
  | active
  | degraded
  | offline
  | maintenance
  deriving DecidableEq, Repr

inductive HealthStatus where
  | unspecified
  | nominal
  | degraded
  | critical
  | failed
  deriving DecidableEq, Repr

inductive Phase where
  | unspecified
  | discovery
  | cell
  | hierarchy
  deriving DecidableEq, Repr

structure Capability (F : Type) where
  id : String
  name : String
  capabilityType : CapabilityType
  confidence : F
  metadataJson : String

structure ResourceStatus (F : Type) where
  computeUtilization : F
  memoryUtilization : F
  powerLevel : F
  storageUtilization : F
  bandwidthUtilization : F
  extraJson : String

structure CapabilityAdvertisement (F : Type) where
  nodeId : String := ""
  capabilities : List (Capability F) := []
  resources : Option (ResourceStatus F) := none
  operationalStatus : OperationalStatus := .unspecified

structure Position (F : Type) where
  latitude : F
  longitude : F
  altitude : F

structure NodeState (F : Type) where
  position : Option (Position F)
  fuelMinutes : Nat
  health : HealthStatus
  phase : Phase

structure TrackPosition (F : Type) where
  latitude : F
  longitude : F
  altitude : F
  cepM : F
  verticalErrorM : F

structure PositionError (F : Type) where
  circularError : F
  linearError : F
  verticalError : F

structure Velocity (F : Type) where
  bearing : F
  speedMps : F
  verticalSpeedMps : F

inductive TrackState where
  | confirmed
  deriving DecidableEq, Repr

inductive SourceType where
  | sensor
  deriving DecidableEq, Repr

structure TrackSource where
  nodeId : String
  sensorId : String
  modelVersion : String
  sourceType : SourceType

structure SchemaTimestamp where
  seconds : Nat
  nanos : Nat

structure Track (F : Type) where
  trackId : String
  classification : String
  confidence : F
  position : Option (TrackPosition F)
  velocity : Option (Velocity F)
  positionError : Option (PositionError F)
  state : TrackState
  source : Option TrackSource
  attributesJson : String
  firstSeen : Option SchemaTimestamp
  lastSeen : Option SchemaTimestamp
  observationCount : Nat

end PeatSapient
