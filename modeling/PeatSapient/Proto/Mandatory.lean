import PeatSapient.Transform.Task
import PeatSapient.Translator.Outbound

/-! The mandatory fields of BSI Flex 335 v2.0, as the vendored proto marks them, in the
messages that the program makes itself. -/

namespace PeatSapient

variable {F : Type}

def required {Value : Type} (name : String) (field : Option Value) : List String :=
  if field.isSome then [] else [name]

def inside (name : String) (paths : List String) : List String :=
  paths.map fun path => name ++ "." ++ path

@[simp] theorem required_some {Value : Type} (name : String) (value : Value) :
    required name (some value) = [] := rfl

@[simp] theorem required_none {Value : Type} (name : String) :
    required name (none : Option Value) = [name] := rfl

@[simp] theorem inside_nil (name : String) : inside name [] = [] := rfl

def Location.missing (loc : Location F) : List String :=
  required "x" loc.x ++ required "y" loc.y ++ required "coordinate_system" loc.coordinateSystem ++
    required "datum" loc.datum

def RangeBearing.missing (rb : RangeBearing F) : List String :=
  required "coordinate_system" rb.coordinateSystem ++ required "datum" rb.datum

def LocationOneof.missing : LocationOneof F → List String
  | .rangeBearing rb => inside "range_bearing" rb.missing
  | .location loc => inside "location" loc.missing

def EnuVelocity.missing (enu : EnuVelocity F) : List String :=
  required "east_rate" enu.eastRate ++ required "north_rate" enu.northRate

def DetectionReportClassification.missing (cls : DetectionReportClassification F) : List String :=
  required "type" cls.type

def Behaviour.missing (behaviour : Behaviour) : List String := required "type" behaviour.type

def DetectionReport.missing (dr : DetectionReport F) : List String :=
  required "report_id" dr.reportId ++ required "object_id" dr.objectId ++
    required "location_oneof" dr.locationOneof ++
    (dr.locationOneof.map LocationOneof.missing).getD [] ++
    inside "classification" (dr.classification.flatMap DetectionReportClassification.missing) ++
    inside "behaviour" (dr.behaviour.flatMap Behaviour.missing) ++
    inside "enu_velocity" ((dr.velocityOneof.map EnuVelocity.missing).getD [])

def Task.missing (task : Task) : List String :=
  required "task_id" task.taskId ++ required "control" task.control

def AlertAck.missing (ack : AlertAck) : List String :=
  required "alert_id" ack.alertId ++ required "alert_ack_status" ack.alertAckStatus

def RegistrationAck.missing (ack : RegistrationAck) : List String :=
  required "acceptance" ack.acceptance

def Content.missing : Content F → Option (List String)
  | .registrationAck ack => some (inside "registration_ack" ack.missing)
  | .detectionReport dr => some (inside "detection_report" dr.missing)
  | .task order => some (inside "task" order.missing)
  | .alertAck ack => some (inside "alert_ack" ack.missing)
  | _ => none

def SapientMessage.missing (msg : SapientMessage F) : Option (List String) :=
  let envelope := required "timestamp" msg.timestamp ++ required "node_id" msg.nodeId ++
    required "content" msg.content
  match msg.content with
  | none => some envelope
  | some content => content.missing.map (envelope ++ ·)

inductive Origin (F : Type) where
  | tracks (doc : SharedDocument F) (ctx : TranslationContext)
  | command (missionName : Int → String) (ulid : String) (startTime sendTime : Nat)
      (sourceNodeId destinationNodeId : String) (cmd : HierarchicalCommand)
  | alertAck (systemTime : Nat) (hldmmNodeId nodeId alertId : String) (status : AlertAckStatus)
      (reasons : List String)
  | registrationAck (systemTime : Nat) (hldmmNodeId destinationId : String)

namespace Origin

variable [FloatOps F]

def message : Origin F → Option (SapientMessage F)
  | .tracks doc ctx => outboundMessage doc ctx
  | .command missionName ulid startTime sendTime sourceNodeId destinationNodeId cmd =>
      (toTask missionName ulid startTime sendTime sourceNodeId destinationNodeId cmd).toOption
  | .alertAck systemTime hldmmNodeId nodeId alertId status reasons =>
      some (makeAlertAck systemTime hldmmNodeId nodeId alertId status reasons)
  | .registrationAck systemTime hldmmNodeId destinationId =>
      some (makeRegistrationAck systemTime hldmmNodeId destinationId)

omit [FloatOps F] in
def Named : Origin F → Prop
  | .tracks _ ctx => ctx.localWireId.isSome
  | _ => True

omit [FloatOps F] in
def isTracks : Origin F → Bool
  | .tracks _ _ => true
  | _ => false

theorem classification_missing (doc : SharedDocument F) :
    doc.classification.flatMap DetectionReportClassification.missing = [] := by
  unfold SharedDocument.classification
  split <;> rfl

/-- A document of the tracks collection gets neither timestamp nor report id. -/
theorem tracks_missing {doc : SharedDocument F} {ctx : TranslationContext}
    {msg : SapientMessage F} (accepted : outboundMessage doc ctx = some msg)
    (named : ctx.localWireId.isSome) :
    msg.missing = some ["timestamp", "detection_report.report_id"] := by
  obtain ⟨_, objectId, lat, lon, _, _, _, rfl⟩ := outboundMessage_some accepted
  obtain ⟨wireId, sender⟩ := Option.isSome_iff_exists.mp named
  simp [SapientMessage.missing, Content.missing, DetectionReport.missing, LocationOneof.missing,
    Location.missing, SharedDocument.location, classification_missing, sender, inside]

omit [FloatOps F] in
theorem command_missing {missionName : Int → String} {ulid : String}
    {startTime sendTime : Nat} {sourceNodeId destinationNodeId : String}
    {cmd : HierarchicalCommand} {msg : SapientMessage F}
    (accepted : toTask missionName ulid startTime sendTime sourceNodeId destinationNodeId cmd =
      .ok msg) : msg.missing = some [] := by
  obtain ⟨_, timestamp, nodeId, _, content⟩ := toTask_ok accepted
  simp [SapientMessage.missing, timestamp, nodeId, content, Content.missing, Task.missing, taskOf]

/-- Every message the program makes has all its mandatory fields, except the
DetectionReports made from documents, none of which has. -/
theorem mandatory_present_iff (origin : Origin F) {msg : SapientMessage F}
    (produced : origin.message = some msg) (named : origin.Named) :
    msg.missing = some [] ↔ origin.isTracks = false := by
  cases origin with
  | tracks doc ctx =>
      rw [tracks_missing produced named]
      simp [isTracks]
  | command missionName ulid startTime sendTime sourceNodeId destinationNodeId cmd =>
      have accepted : toTask missionName ulid startTime sendTime sourceNodeId destinationNodeId
          cmd = .ok msg := by
        simp only [message] at produced
        cases result : toTask missionName ulid startTime sendTime sourceNodeId destinationNodeId
            cmd with
        | error failure => simp [result, Except.toOption] at produced
        | ok made => simpa [result, Except.toOption] using produced
      exact iff_of_true (command_missing accepted) rfl
  | alertAck systemTime hldmmNodeId nodeId alertId status reasons =>
      cases produced
      exact iff_of_true rfl rfl
  | registrationAck systemTime hldmmNodeId destinationId =>
      cases produced
      exact iff_of_true rfl rfl

def formationCommand : Origin Float :=
  .command toString "01J8XKV5T2R3M4N6P7Q8S9W0YZ" 0 0 "hldmm" "n"
    ⟨"c", some .formationChange, none⟩

theorem mandatory_present_iff_command :
    ∃ msg : SapientMessage Float, formationCommand.message = some msg ∧
      msg.missing = some [] :=
  ⟨_, rfl, (mandatory_present_iff formationCommand rfl trivial).mpr rfl⟩

def minimalDocument : SharedDocument Float where
  id := some "trk-1"
  fields := ((∅ : HashMap.Table String (JsonValue Float)).insert "lat" (.integer 51)).insert "lon"
    (.integer 0)

/-- Its report carries no timestamp and no report id. -/
theorem tracks_incomplete :
    ¬ ∀ (origin : Origin Float) (msg : SapientMessage Float), origin.message = some msg →
      origin.Named → msg.missing = some [] := by
  intro complete
  have held := complete (.tracks minimalDocument ⟨some "tracks", some "node"⟩) _ rfl rfl
  revert held
  decide

end Origin

end PeatSapient
