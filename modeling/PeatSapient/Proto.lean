import PeatSapient.Numeric

/-! The messages of sapient_msg.bsi_flex_335_v2_0, as prost generates them. A
message keeps the fields some function of the repository reads or writes. An
open enum is its i32; `tryFrom` is the generated conversion. -/

namespace PeatSapient

structure Timestamp where
  seconds : Int
  nanos : Int
  deriving DecidableEq, Repr

inductive LocationCoordinateSystem where
  | unspecified
  | latLngDegM
  | latLngRadM
  | utmM
  deriving DecidableEq, Repr

def LocationCoordinateSystem.tryFrom : Int → Option LocationCoordinateSystem
  | 0 => some .unspecified
  | 1 => some .latLngDegM
  | 2 => some .latLngRadM
  | 5 => some .utmM
  | _ => none

inductive RangeBearingCoordinateSystem where
  | unspecified
  | degreesM
  | radiansM
  | degreesKm
  | radiansKm
  deriving DecidableEq, Repr

def RangeBearingCoordinateSystem.tryFrom : Int → Option RangeBearingCoordinateSystem
  | 0 => some .unspecified
  | 1 => some .degreesM
  | 2 => some .radiansM
  | 3 => some .degreesKm
  | 4 => some .radiansKm
  | _ => none

structure Location (F : Type) where
  x : Option F := none
  y : Option F := none
  z : Option F := none
  xError : Option F := none
  yError : Option F := none
  zError : Option F := none
  coordinateSystem : Option Int := none
  datum : Option Int := none
  utmZone : Option String := none

structure RangeBearing (F : Type) where
  elevation : Option F := none
  azimuth : Option F := none
  range : Option F := none
  rangeError : Option F := none
  coordinateSystem : Option Int := none
  datum : Option Int := none

inductive LocationOneof (F : Type) where
  | rangeBearing (rb : RangeBearing F)
  | location (loc : Location F)

structure EnuVelocity (F : Type) where
  eastRate : Option F := none
  northRate : Option F := none
  upRate : Option F := none

inductive NodeType where
  | unspecified
  | other
  | radar
  | lidar
  | camera
  | seismic
  | acoustic
  | proximitySensor
  | passiveRf
  | human
  | chemical
  | biological
  | radiation
  | kinetic
  | jammer
  | cyber
  | ldew
  | rfdew
  | mobileNode
  | pointableNode
  | fusionNode
  deriving DecidableEq, Repr

def NodeType.tryFrom : Int → Option NodeType
  | 0 => some .unspecified
  | 1 => some .other
  | 2 => some .radar
  | 3 => some .lidar
  | 4 => some .camera
  | 5 => some .seismic
  | 6 => some .acoustic
  | 7 => some .proximitySensor
  | 8 => some .passiveRf
  | 9 => some .human
  | 10 => some .chemical
  | 11 => some .biological
  | 12 => some .radiation
  | 13 => some .kinetic
  | 14 => some .jammer
  | 15 => some .cyber
  | 16 => some .ldew
  | 17 => some .rfdew
  | 18 => some .mobileNode
  | 19 => some .pointableNode
  | 20 => some .fusionNode
  | _ => none

def NodeType.debug : NodeType → String
  | .unspecified => "Unspecified"
  | .other => "Other"
  | .radar => "Radar"
  | .lidar => "Lidar"
  | .camera => "Camera"
  | .seismic => "Seismic"
  | .acoustic => "Acoustic"
  | .proximitySensor => "ProximitySensor"
  | .passiveRf => "PassiveRf"
  | .human => "Human"
  | .chemical => "Chemical"
  | .biological => "Biological"
  | .radiation => "Radiation"
  | .kinetic => "Kinetic"
  | .jammer => "Jammer"
  | .cyber => "Cyber"
  | .ldew => "Ldew"
  | .rfdew => "Rfdew"
  | .mobileNode => "MobileNode"
  | .pointableNode => "PointableNode"
  | .fusionNode => "FusionNode"

structure NodeDefinition where
  nodeType : Option Int := none
  nodeSubType : List String := []

structure ConfigurationData where
  manufacturer : String := ""
  model : String := ""

structure Registration where
  nodeDefinition : List NodeDefinition := []
  icdVersion : Option String := none
  name : Option String := none
  configData : List ConfigurationData := []

structure RegistrationAck where
  acceptance : Option Bool := none
  ackResponseReason : List String := []

inductive System where
  | unspecified
  | ok
  | warning
  | error
  | goodbye
  deriving DecidableEq, Repr

def System.tryFrom : Int → Option System
  | 0 => some .unspecified
  | 1 => some .ok
  | 2 => some .warning
  | 3 => some .error
  | 5 => some .goodbye
  | _ => none

structure Power where
  level : Option Int := none

-- Only the presence of a field of view is ever looked at.
inductive LocationOrRangeBearing where
  | rangeBearing
  | locationList

structure StatusReport (F : Type) where
  system : Option Int := none
  mode : Option String := none
  power : Option Power := none
  nodeLocation : Option (Location F) := none
  fieldOfView : Option LocationOrRangeBearing := none

structure DetectionReportClassification (F : Type) where
  type : Option String := none
  confidence : Option F := none

structure Behaviour where
  type : Option String := none

structure DetectionReport (F : Type) where
  reportId : Option String := none
  objectId : Option String := none
  locationOneof : Option (LocationOneof F) := none
  classification : List (DetectionReportClassification F) := []
  behaviour : List Behaviour := []
  velocityOneof : Option (EnuVelocity F) := none
  colour : Option String := none
  id : Option String := none

structure Task where
  taskId : Option String := none
  taskName : Option String := none
  taskDescription : Option String := none
  taskStartTime : Option Timestamp := none
  taskEndTime : Option Timestamp := none
  control : Option Int := none

/-- The generated enum `task_ack::TaskStatus`. -/
inductive TaskStatus where
  | unspecified
  | accepted
  | rejected
  | completed
  | failed
  deriving DecidableEq, Repr

def TaskStatus.tryFrom : Int → Option TaskStatus
  | 0 => some .unspecified
  | 1 => some .accepted
  | 2 => some .rejected
  | 3 => some .completed
  | 4 => some .failed
  | _ => none

structure TaskAck where
  taskId : Option String := none
  taskStatus : Option Int := none
  reason : List String := []

inductive AlertType where
  | unspecified
  | information
  | warning
  | critical
  | error
  | fatal
  | modeChange
  deriving DecidableEq, Repr

def AlertType.tryFrom : Int → Option AlertType
  | 0 => some .unspecified
  | 1 => some .information
  | 2 => some .warning
  | 3 => some .critical
  | 4 => some .error
  | 5 => some .fatal
  | 6 => some .modeChange
  | _ => none

def AlertType.debug : AlertType → String
  | .unspecified => "Unspecified"
  | .information => "Information"
  | .warning => "Warning"
  | .critical => "Critical"
  | .error => "Error"
  | .fatal => "Fatal"
  | .modeChange => "ModeChange"

inductive AlertStatus where
  | unspecified
  | active
  | acknowledge
  | reject
  | ignore
  | clear
  deriving DecidableEq, Repr

def AlertStatus.tryFrom : Int → Option AlertStatus
  | 0 => some .unspecified
  | 1 => some .active
  | 2 => some .acknowledge
  | 3 => some .reject
  | 4 => some .ignore
  | 5 => some .clear
  | _ => none

def AlertStatus.debug : AlertStatus → String
  | .unspecified => "Unspecified"
  | .active => "Active"
  | .acknowledge => "Acknowledge"
  | .reject => "Reject"
  | .ignore => "Ignore"
  | .clear => "Clear"

inductive DiscretePriority where
  | unspecified
  | low
  | medium
  | high
  deriving DecidableEq, Repr

def DiscretePriority.tryFrom : Int → Option DiscretePriority
  | 0 => some .unspecified
  | 1 => some .low
  | 2 => some .medium
  | 3 => some .high
  | _ => none

def DiscretePriority.debug : DiscretePriority → String
  | .unspecified => "Unspecified"
  | .low => "Low"
  | .medium => "Medium"
  | .high => "High"

structure AssociatedDetection where
  objectId : Option String := none

structure Alert (F : Type) where
  alertId : Option String := none
  alertType : Option Int := none
  status : Option Int := none
  description : Option String := none
  locationOneof : Option (LocationOneof F) := none
  regionId : Option String := none
  priority : Option Int := none
  ranking : Option F := none
  confidence : Option F := none
  associatedDetection : List AssociatedDetection := []
  additionalInformation : Option String := none

inductive AlertAckReply where
  | unspecified
  | accepted
  | rejected
  | cancelled
  deriving DecidableEq, Repr

def AlertAckReply.tryFrom : Int → Option AlertAckReply
  | 0 => some .unspecified
  | 1 => some .accepted
  | 2 => some .rejected
  | 3 => some .cancelled
  | _ => none

structure AlertAck where
  alertId : Option String := none
  reason : List String := []
  alertAckStatus : Option Int := none

structure ProtoError where
  packet : Option (List UInt8) := none
  errorMessage : List String := []

inductive Content (F : Type) where
  | registration (reg : Registration)
  | registrationAck (ack : RegistrationAck)
  | statusReport (sr : StatusReport F)
  | detectionReport (dr : DetectionReport F)
  | task (task : Task)
  | taskAck (ack : TaskAck)
  | alert (alert : Alert F)
  | alertAck (ack : AlertAck)
  | error (error : ProtoError)

structure SapientMessage (F : Type) where
  timestamp : Option Timestamp := none
  nodeId : Option String := none
  destinationId : Option String := none
  content : Option (Content F) := none
  additionalInformation : Option String := none

/-- `msg.node_id.clone().unwrap_or_default()`. -/
def SapientMessage.sender {F : Type} (msg : SapientMessage F) : String :=
  msg.nodeId.getD ""

end PeatSapient
