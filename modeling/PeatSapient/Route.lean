import PeatSapient.RateLimit
import PeatSapient.Transform.Alert
import PeatSapient.Transform.Registration
import PeatSapient.Transform.Status

/-! The pure part of bridge.rs: what an inbound message is routed to, and the
messages the bridge makes itself. -/

namespace PeatSapient

variable {F : Type}

inductive TaskAckStatus where
  | accepted
  | rejected
  | completed
  | failed
  deriving DecidableEq, Repr

def TaskAckStatus.fromProto (status : Option Int) : TaskAckStatus :=
  match status.bind TaskStatus.tryFrom with
  | some .accepted => .accepted
  | some .rejected => .rejected
  | some .completed => .completed
  | some .failed => .failed
  | some .unspecified => .failed
  | none => .failed

inductive AlertAckStatus where
  | accepted
  | rejected
  | cancelled
  deriving DecidableEq, Repr

def AlertAckStatus.fromProto (status : Option Int) : AlertAckStatus :=
  match status.bind AlertAckReply.tryFrom with
  | some .accepted => .accepted
  | some .rejected => .rejected
  | some .cancelled => .cancelled
  | some .unspecified => .rejected
  | none => .rejected

def AlertAckStatus.toProto : AlertAckStatus → Int
  | .accepted => 1
  | .rejected => 2
  | .cancelled => 3

/-- A status the bridge sends is read back as itself. -/
theorem AlertAckStatus.fromProto_toProto (status : AlertAckStatus) :
    fromProto (some status.toProto) = status := by
  cases status <;> rfl

inductive SapientUpdate (F : Type) where
  | registered (nodeId : String) (advertisement : CapabilityAdvertisement F)
  | statusUpdated (nodeId : String) (state : NodeState F)
      (capabilityDelta : Option (CapabilityAdvertisement F))
  | detected (nodeId : String) (track : Track F)
  | alerted (nodeId : String) (event : SapientAlertEvent F)
  | alertAcknowledged (nodeId alertId : String) (status : AlertAckStatus)
      (reasons : List String)
  | taskAcknowledged (nodeId taskId : String) (commandId : Option String)
      (status : TaskAckStatus) (reasons : List String)
  | ignored (reason : String)
  | nodeDisconnected (nodeId : String)

def nowProtoTs (systemTime : Nat) : Timestamp where
  seconds := (systemTime / 1000000000 : Nat)
  nanos := (systemTime % 1000000000 : Nat)

def makeRegistrationAck (systemTime : Nat) (hldmmNodeId destinationId : String) :
    SapientMessage F where
  nodeId := some hldmmNodeId
  destinationId := some destinationId
  timestamp := some (nowProtoTs systemTime)
  content := some (.registrationAck { acceptance := some true, ackResponseReason := [] })
  additionalInformation := none

def makeAlertAck (systemTime : Nat) (hldmmNodeId nodeId alertId : String)
    (status : AlertAckStatus) (reasons : List String) : SapientMessage F where
  nodeId := some hldmmNodeId
  destinationId := some nodeId
  timestamp := some (nowProtoTs systemTime)
  content := some (.alertAck {
    alertId := some alertId
    reason := reasons
    alertAckStatus := some status.toProto })
  additionalInformation := none

def extractTaskId (msg : SapientMessage F) : Except SapientError String :=
  match msg.content with
  | some (.task task) =>
      let id := task.taskId.getD ""
      if id.isEmpty then .error (.mappingError "task_id" "Task message has no task_id")
      else .ok id
  | _ =>
      .error (.mappingError "content"
        "send_task requires a SapientMessage with Task content")

def contentLabel : Content F → String
  | .registration _ => "Registration"
  | .registrationAck _ => "RegistrationAck"
  | .statusReport _ => "StatusReport"
  | .detectionReport _ => "DetectionReport"
  | .task _ => "Task"
  | .taskAck _ => "TaskAck"
  | .alert _ => "Alert"
  | .alertAck _ => "AlertAck"
  | .error _ => "Error"

variable [FloatOps F]

def admits (limiter : Option (DetectionLimiter F)) (now : Nat) (nodeId : String) :
    Bool × Option (DetectionLimiter F) :=
  match limiter with
  | none => (true, none)
  | some limiter => ((limiter.check now nodeId).1, some (limiter.check now nodeId).2)

/-- The routed update, and the limiter after the check a detection makes. -/
def routeMessage (msg : SapientMessage F) (sensorPosition : Option (TrackPosition F))
    (limiter : Option (DetectionLimiter F)) (now : Nat) :
    Except SapientError (SapientUpdate F) × Option (DetectionLimiter F) :=
  let nodeId := msg.sender
  match msg.content with
  | some (.registration reg) => (.ok (.registered nodeId (fromRegistration nodeId reg)), limiter)
  | some (.statusReport sr) =>
      let result := fromStatusReport nodeId sr
      (.ok (.statusUpdated nodeId result.1 result.2), limiter)
  | some (.detectionReport dr) =>
      let admitted := admits limiter now nodeId
      if admitted.1 then
        match fromDetectionReport nodeId sensorPosition dr with
        | .ok track => (.ok (.detected nodeId track), admitted.2)
        | .error failure => (.error failure, admitted.2)
      else (.ok (.ignored ("detection rate-limited for node " ++ nodeId)), admitted.2)
  | some (.alert alert) => (.ok (.alerted nodeId (fromAlert nodeId alert)), limiter)
  | some (.taskAck ack) =>
      (.ok (.taskAcknowledged nodeId (ack.taskId.getD "") none
        (TaskAckStatus.fromProto ack.taskStatus) ack.reason), limiter)
  | some (.alertAck ack) =>
      (.ok (.alertAcknowledged nodeId (ack.alertId.getD "")
        (AlertAckStatus.fromProto ack.alertAckStatus) ack.reason), limiter)
  | some other => (.ok (.ignored ("no peat mapping for " ++ contentLabel other)), limiter)
  | none => (.ok (.ignored "SapientMessage has no content"), limiter)

theorem routeMessage_registration (msg : SapientMessage F) (reg : Registration)
    (sensorPosition : Option (TrackPosition F)) (limiter : Option (DetectionLimiter F))
    (now : Nat) (content : msg.content = some (.registration reg)) :
    routeMessage msg sensorPosition limiter now =
      (.ok (.registered msg.sender (fromRegistration msg.sender reg)), limiter) := by
  simp [routeMessage, content]

end PeatSapient
