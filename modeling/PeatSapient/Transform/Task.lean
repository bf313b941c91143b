import PeatSapient.MeshFields
import PeatSapient.Route

/-! transform/task.rs: commands as outbound tasks. The ULID library and the `Debug` names of
the mission types, which are peat-schema's, are parameters; the clock is read twice. -/

namespace PeatSapient

inductive CommandType where
  | missionOrder (missionType : Int)
  | engagementOrder (targetId : String)
  | formationChange
  | configurationUpdate
  deriving DecidableEq, Repr

structure HierarchicalCommand where
  commandId : String
  commandType : Option CommandType
  expiresAt : Option SchemaTimestamp

def asI32 (value : Nat) : Int :=
  if value < 2 ^ 31 then (value : Int) else (value : Int) - 2 ^ 32

def commandToTaskName (missionName : Int → String) (cmd : HierarchicalCommand) : String :=
  match cmd.commandType with
  | some (.missionOrder missionType) => "MissionOrder/" ++ missionName missionType
  | some (.engagementOrder targetId) => "EngagementOrder/" ++ targetId
  | some .formationChange => "FormationChange"
  | some .configurationUpdate => "ConfigurationUpdate"
  | none => ""

def controlStart : Int := 1

def taskOf (missionName : Int → String) (ulid : String) (startTime : Nat)
    (cmd : HierarchicalCommand) : Task where
  taskId := some ulid
  taskName := some (commandToTaskName missionName cmd)
  taskDescription := some ("peat command_id=" ++ cmd.commandId)
  control := some controlStart
  taskStartTime := some (nowProtoTs startTime)
  taskEndTime := cmd.expiresAt.map fun t => ⟨asI64 t.seconds, asI32 t.nanos⟩

def toTask {F : Type} (missionName : Int → String) (ulid : String) (startTime sendTime : Nat)
    (sourceNodeId destinationNodeId : String) (cmd : HierarchicalCommand) :
    Except SapientError (SapientMessage F) :=
  if cmd.commandType.isNone then
    .error (.taskRejected sourceNodeId "HierarchicalCommand has no command_type")
  else
    .ok {
      timestamp := some (nowProtoTs sendTime)
      nodeId := some sourceNodeId
      destinationId := some destinationNodeId
      content := some (.task (taskOf missionName ulid startTime cmd))
      additionalInformation := none }

theorem toTask_ok {F : Type} {missionName : Int → String} {ulid : String}
    {startTime sendTime : Nat} {sourceNodeId destinationNodeId : String}
    {cmd : HierarchicalCommand} {msg : SapientMessage F}
    (accepted : toTask missionName ulid startTime sendTime sourceNodeId destinationNodeId cmd =
      .ok msg) :
    cmd.commandType ≠ none ∧ msg.timestamp = some (nowProtoTs sendTime) ∧
      msg.nodeId = some sourceNodeId ∧ msg.destinationId = some destinationNodeId ∧
        msg.content = some (.task (taskOf missionName ulid startTime cmd)) := by
  unfold toTask at accepted
  split at accepted
  · cases accepted
  · next typed =>
      cases accepted
      exact ⟨by simpa using typed, rfl, rfl, rfl, rfl⟩

end PeatSapient
