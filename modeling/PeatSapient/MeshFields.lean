import Mathlib.Algebra.Group.Nat.Defs
import Mathlib.Algebra.Group.Int.Defs
import PeatSapient.Lib.HashMap
import PeatSapient.Schema

/-! mesh_fields.rs: tracks and platforms as flat JSON fields of mesh documents. -/

namespace PeatSapient

open HashMap

variable {F : Type}

inductive Json (F : Type) where
  | null
  | number (value : F)
  | integer (value : Int)
  | string (text : String)
  | array (texts : List String)

abbrev Fields (F : Type) := Table String (Json F)

def asI64 (value : Nat) : Int :=
  if value < 2 ^ 63 then (value : Int) else (value : Int) - 2 ^ 64

/-- `seconds.saturating_mul(1000) + (nanos / 1_000_000) as u64`; the sum wraps. -/
def timestampMs (timestamp : SchemaTimestamp) : Int :=
  asI64 ((min (timestamp.seconds * 1000) (2 ^ 64 - 1) + timestamp.nanos / 1000000) % 2 ^ 64)

def operationalStatusStr : OperationalStatus → String
  | .unspecified => "unspecified"
  | .ready => "ready"
  | .active => "active"
  | .degraded => "degraded"
  | .offline => "offline"
  | .maintenance => "maintenance"

def healthStatusStr : HealthStatus → String
  | .unspecified => "unspecified"
  | .nominal => "nominal"
  | .degraded => "degraded"
  | .critical => "critical"
  | .failed => "failed"

def phaseStr : Phase → String
  | .unspecified => "unspecified"
  | .discovery => "discovery"
  | .cell => "cell"
  | .hierarchy => "hierarchy"

variable [FloatOps F]

/-- `json!` of a float: what is not finite becomes null. -/
def jsonNumber (value : F) : Json F :=
  if FloatOps.isFinite value then .number value else .null

def insertPosition (latitude longitude altitude : F) (fields : Fields F) : Fields F :=
  let placed := (fields.insert "lat" (jsonNumber latitude)).insert "lon" (jsonNumber longitude)
  if FloatOps.isZero altitude then placed else placed.insert "hae" (jsonNumber altitude)

def trackToFields (track : Track F) : String × Fields F :=
  let fields : Fields F := match track.position with
    | some pos => insertPosition pos.latitude pos.longitude pos.altitude ∅
    | none => ∅
  let fields : Fields F := match track.lastSeen with
    | some lastSeen => fields.insert "timestamp_ms" (.integer (timestampMs lastSeen))
    | none => fields
  let fields : Fields F :=
    if track.classification.isEmpty then fields
    else fields.insert "sapient_classification" (.string track.classification)
  let fields : Fields F := fields.insert "sapient_confidence" (jsonNumber track.confidence)
  let fields : Fields F := match track.source with
    | some source =>
        if source.nodeId.isEmpty then fields
        else fields.insert "sapient_source_node_id" (.string source.nodeId)
    | none => fields
  (track.trackId, fields)

def platformToFields (advertisement : CapabilityAdvertisement F)
    (state : Option (NodeState F)) : String × Fields F :=
  let capabilityNames := advertisement.capabilities.map Capability.name
  let fields : Fields F :=
    if capabilityNames.isEmpty then ∅
    else (∅ : Fields F).insert "capabilities" (.array capabilityNames)
  -- An unspecified status is left out, so that it overwrites nothing.
  let fields : Fields F :=
    if advertisement.operationalStatus = .unspecified then fields
    else fields.insert "operational_status"
      (.string (operationalStatusStr advertisement.operationalStatus))
  let fields : Fields F := match state with
    | some state =>
        let told := (fields.insert "health" (.string (healthStatusStr state.health))).insert
          "phase" (.string (phaseStr state.phase))
        match state.position with
        | some pos => insertPosition pos.latitude pos.longitude pos.altitude told
        | none => told
    | none => fields
  (advertisement.nodeId, fields)

end PeatSapient
