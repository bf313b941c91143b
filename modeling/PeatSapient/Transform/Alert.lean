import PeatSapient.Transform.Detection

/-! transform/alert.rs -/

namespace PeatSapient

variable {F : Type} [FloatOps F]

structure SapientAlertEvent (F : Type) where
  alertId : String
  alertType : String
  status : String
  priority : String
  description : Option String
  confidence : Option F
  ranking : Option F
  position : Option (TrackPosition F)
  regionId : Option String
  attributesJson : String

-- The three labels: the name of a known value, or the number it came as.
def label {Kind : Type} (tryFrom : Int → Option Kind) (debug : Kind → String) (value : Int) :
    String :=
  match tryFrom value with
  | some kind => debug kind
  | none => "Unknown(" ++ toString value ++ ")"

def alertTypeLabel : Int → String := label AlertType.tryFrom AlertType.debug

def alertStatusLabel : Int → String := label AlertStatus.tryFrom AlertStatus.debug

def priorityLabel : Int → String := label DiscretePriority.tryFrom DiscretePriority.debug

def alertAttributes (nodeId : String) (msg : Alert F) : Attributes :=
  (if msg.associatedDetection.isEmpty then []
    else [("associated_detection_ids",
      .array (msg.associatedDetection.filterMap AssociatedDetection.objectId))]) ++
  (match msg.additionalInformation with
    | some extra => [("additional_information", .string extra)]
    | none => []) ++
  (match msg.regionId with
    | some regionId => [("sapient_region_id", .string regionId)]
    | none => []) ++
  [("sapient_source_node_id", .string nodeId)]

-- A range-bearing location is never resolved here.
def alertPosition (msg : Alert F) : Option (TrackPosition F) :=
  match msg.locationOneof with
  | some (.location loc) =>
      match locationToTrackPosition loc with
      | .ok (position, _) => some position
      | .error _ => none
  | some (.rangeBearing _) => none
  | none => none

def fromAlert (nodeId : String) (msg : Alert F) : SapientAlertEvent F where
  alertId := msg.alertId.getD ""
  alertType := alertTypeLabel (msg.alertType.getD 0)
  status := alertStatusLabel (msg.status.getD 0)
  priority := priorityLabel (msg.priority.getD 0)
  description := msg.description
  confidence := msg.confidence
  ranking := msg.ranking
  position := alertPosition msg
  regionId := msg.regionId
  attributesJson := (alertAttributes nodeId msg).print

end PeatSapient
