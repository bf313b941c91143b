import Mathlib.Logic.Function.Basic
import PeatSapient.Lib.Channel
import PeatSapient.Lib.Execution
import PeatSapient.Registry
import PeatSapient.Route
import PeatSapient.TaskQueue

/-! bridge.rs as a machine. One step is what a task does from one await point to
the next: it takes a lock, or finishes a send, and then runs on. A lock that is
held over an await point is part of the state, with its holder; a send into a
full channel is not enabled. Instants are nanosecond counts, read once a step. -/

namespace PeatSapient

open HashMap Mpsc Execution

variable {F : Type}

structure BridgeConfig (F : Type) where
  nodeId : String
  detectionRateLimit : Option (RateLimitConfig F)
  taskQueueDepth : Nat
  taskTtl : Nat

abbrev ConnId := Nat
abbrev CallId := Nat

-- `origin` is history: the `send_task` call a message comes from. No step reads it.
structure Outgoing (F : Type) where
  origin : Option CallId
  msg : SapientMessage F

-- `source` is history too: the connection an update was emitted by.
structure Emitted (F : Type) where
  source : ConnId
  update : SapientUpdate F

structure TaskCall (F : Type) where
  nodeId : String
  msg : SapientMessage F
  commandId : Option String
  taskId : String

/-- Where a call of the public interface is. `reaping` holds the queue's lock and
`delivering` the lock of the connections. -/
inductive ApiCall (F : Type) where
  | idle
  | inserting (task : TaskCall F)
  | queueing (task : TaskCall F)
  | reaping (task : TaskCall F) (removed : List String)
  | connecting (task : TaskCall F)
  | alerting (nodeId : String) (msg : SapientMessage F)
  | delivering (nodeId : String) (conn : ConnId) (out : Outgoing F)
  | returned (result : Except SapientError Unit)

/-- Where `run_connection` is. The stages up to `replaying` are those of a first
Registration, the last three before `closed` are the clean-up. `reaping` holds
the queue's lock; `cleared` is history: the ack has just emptied an entry. -/
inductive Stage (F : Type) where
  | reading
  | registering (msg : SapientMessage F)
  | acking (msg : SapientMessage F)
  | snapshotting (msg : SapientMessage F)
  | reaping (msg : SapientMessage F) (expired : List String)
  | replaying (msg : SapientMessage F) (pending : List (Outgoing F))
  | locating (msg : SapientMessage F)
  | routing (msg : SapientMessage F) (sensorPosition : Option (TrackPosition F))
  | recording (update : SapientUpdate F)
  | correlating (nodeId taskId : String) (status : TaskAckStatus) (reasons : List String)
      (cleared : Bool)
  | emitting (update : SapientUpdate F)
  | disconnecting (nodeId : String)
  | unregistering (nodeId : String)
  | announcing (nodeId : String)
  | closed

/-- `writing` is the message the writer task has taken and not yet written. -/
structure Connection (F : Type) where
  stage : Stage F
  registered : Option String
  write : Channel (Outgoing F)
  writing : Option (Outgoing F)

inductive LockHolder where
  | call (id : CallId)
  | conn (id : ConnId)
  deriving DecidableEq

structure Bridge (F : Type) where
  clock : Nat
  systemTime : Nat
  detectionLimiter : Option (DetectionLimiter F)
  connections : Table String ConnId
  connectionsLock : Option CallId
  taskQueue : TaskQueue (Outgoing F)
  queueLock : Option LockHolder
  taskCommands : Table String String
  registry : NodeRegistry F
  updates : Channel (Emitted F)
  conns : ConnId → Connection F
  calls : CallId → ApiCall F

namespace Bridge

def setCall (state : Bridge F) (id : CallId) (call : ApiCall F) : Bridge F :=
  { state with calls := Function.update state.calls id call }

def setConn (state : Bridge F) (id : ConnId) (conn : Connection F) : Bridge F :=
  { state with conns := Function.update state.conns id conn }

def setStage (state : Bridge F) (id : ConnId) (stage : Stage F) : Bridge F :=
  state.setConn id { state.conns id with stage := stage }

def setWrite (state : Bridge F) (id : ConnId) (write : Channel (Outgoing F)) : Bridge F :=
  state.setConn id { state.conns id with write := write }

end Bridge

inductive Action (F : Type) where
  | tick (elapsed systemTime : Nat)
  | sendTask (call : CallId) (nodeId : String) (msg : SapientMessage F)
      (commandId : Option String)
  | sendAlertAck (call : CallId) (nodeId alertId : String) (status : AlertAckStatus)
      (reasons : List String)
  | advance (call : CallId)
  | receive (conn : ConnId) (msg : SapientMessage F)
  | hangUp (conn : ConnId)
  | proceed (conn : ConnId)
  | writerTakes (conn : ConnId)
  | writerWrote (conn : ConnId) (ok : Bool)
  | consume
  | dropReceiver

namespace Bridge

def startSendTask (nodeId : String) (msg : SapientMessage F) (commandId : Option String) :
    ApiCall F :=
  match extractTaskId msg with
  | .error failure => .returned (.error failure)
  | .ok taskId => .inserting ⟨nodeId, msg, commandId, taskId⟩

def reaped (state : Bridge F) (id : CallId) (task : TaskCall F) : List String :=
  let drained := state.taskQueue.drainExpired state.clock
  let enqueued := drained.2.enqueue state.clock task.nodeId task.taskId ⟨some id, task.msg⟩
  drained.1 ++ enqueued.1.toList

def queued (state : Bridge F) (id : CallId) (task : TaskCall F) : TaskQueue (Outgoing F) :=
  ((state.taskQueue.drainExpired state.clock).2.enqueue state.clock task.nodeId task.taskId
    ⟨some id, task.msg⟩).2

def stepCall (state : Bridge F) (id : CallId) : Option (Bridge F) :=
  match state.calls id with
  | .idle | .returned _ => none
  | .inserting task =>
      match task.commandId with
      | some command =>
          some ({ state with
              taskCommands := state.taskCommands.insert task.taskId command }.setCall id
                (.queueing task))
      | none => some (state.setCall id (.queueing task))
  | .queueing task =>
      -- One critical section: drain, enqueue, and read what both removed.
      if state.queueLock.isSome then none
      else if (state.reaped id task).isEmpty then
        some ({ state with taskQueue := state.queued id task }.setCall id (.connecting task))
      else
        some ({ state with
            taskQueue := state.queued id task
            queueLock := some (.call id) }.setCall id (.reaping task (state.reaped id task)))
  | .reaping task removed =>
      some ({ state with
          taskCommands := eraseAll removed state.taskCommands
          queueLock := none }.setCall id (.connecting task))
  | .connecting task =>
      if state.connectionsLock.isSome then none
      else match state.connections.lookup task.nodeId with
        | none => some (state.setCall id (.returned (.ok ())))
        | some conn =>
            -- The guard on the map is held while the push waits for room.
            some ({ state with connectionsLock := some id }.setCall id
              (.delivering task.nodeId conn ⟨some id, task.msg⟩))
  | .alerting nodeId msg =>
      if state.connectionsLock.isSome then none
      else match state.connections.lookup nodeId with
        | none => some (state.setCall id (.returned (.error (.nodeNotFound nodeId))))
        | some conn =>
            some ({ state with connectionsLock := some id }.setCall id
              (.delivering nodeId conn ⟨none, msg⟩))
  | .delivering _ conn out =>
      match (state.conns conn).write.send out with
      | none => none
      | some write =>
          some (({ state with connectionsLock := none }.setWrite conn write).setCall id
            (.returned (.ok ())))

def isRegistration (msg : SapientMessage F) : Bool :=
  match msg.content with
  | some (.registration _) => true
  | _ => false

/-- A message comes off the socket: the first Registration is handled apart. -/
def arrive (state : Bridge F) (id : ConnId) (msg : SapientMessage F) : Connection F :=
  if isRegistration msg && (state.conns id).registered.isNone then
    { state.conns id with stage := .registering msg, registered := some msg.sender }
  else { state.conns id with stage := .locating msg }

def hungUp (state : Bridge F) (id : ConnId) : Stage F :=
  match (state.conns id).registered with
  | some nodeId => .disconnecting nodeId
  | none => .closed

def record (state : Bridge F) (id : ConnId) (update : SapientUpdate F) :
    Option (Bridge F) :=
  match update with
  | .registered nodeId advertisement =>
      some ({ state with
          registry := state.registry.upsert state.clock nodeId (some advertisement) none
          }.setStage id (.emitting update))
  | .statusUpdated nodeId _ delta =>
      some ({ state with
          registry := state.registry.upsert state.clock nodeId delta none
          }.setStage id (.emitting update))
  | .detected nodeId _ =>
      some ({ state with
          registry := state.registry.upsert state.clock nodeId none none
          }.setStage id (.emitting update))
  | .taskAcknowledged nodeId taskId _ status reasons =>
      if state.queueLock.isSome then none
      else
        let cleared := (state.taskQueue.queueFor nodeId).any fun task => task.taskId == taskId
        some ({ state with taskQueue := state.taskQueue.ack nodeId taskId }.setStage id
          (.correlating nodeId taskId status reasons cleared))
  | _ => some (state.setStage id (.emitting update))

variable [FloatOps F]

def new (config : BridgeConfig F) : Bridge F where
  clock := 0
  systemTime := 0
  detectionLimiter := config.detectionRateLimit.map DetectionLimiter.new
  connections := ∅
  connectionsLock := none
  taskQueue := TaskQueue.new config.taskQueueDepth config.taskTtl
  queueLock := none
  taskCommands := ∅
  registry := ∅
  updates := channel 256
  conns := fun _ => ⟨.reading, none, channel 64, none⟩
  calls := fun _ => .idle

def stepConn (config : BridgeConfig F) (state : Bridge F) (id : ConnId) :
    Option (Bridge F) :=
  match (state.conns id).stage with
  | .reading | .closed => none
  | .registering msg =>
      if state.connectionsLock.isSome then none
      else
        some ({ state with connections := state.connections.insert msg.sender id }.setStage
          id (.acking msg))
  | .acking msg =>
      -- The ack is pushed before the replay, and a full channel holds both up.
      let ack := makeRegistrationAck state.systemTime config.nodeId msg.sender
      match (state.conns id).write.send ⟨none, ack⟩ with
      | none => none
      | some write =>
          some (state.setConn id
            { state.conns id with write := write, stage := .snapshotting msg })
  | .snapshotting msg =>
      if state.queueLock.isSome then none
      else
        let drained := state.taskQueue.drainExpired state.clock
        if drained.1.isEmpty then
          some ({ state with taskQueue := drained.2 }.setStage id
            (.replaying msg (drained.2.pendingFor msg.sender)))
        else
          some ({ state with
              taskQueue := drained.2
              queueLock := some (.conn id) }.setStage id (.reaping msg drained.1))
  | .reaping msg expired =>
      some ({ state with
          taskCommands := eraseAll expired state.taskCommands
          queueLock := none }.setStage id
            (.replaying msg (state.taskQueue.pendingFor msg.sender)))
  | .replaying msg [] => some (state.setStage id (.locating msg))
  | .replaying msg (out :: rest) =>
      match (state.conns id).write.send out with
      | none => none
      | some write =>
          some (state.setConn id
            { state.conns id with write := write, stage := .replaying msg rest })
  | .locating msg =>
      some (state.setStage id (.routing msg (state.registry.getPosition msg.sender)))
  | .routing msg sensorPosition =>
      let routed := routeMessage msg sensorPosition state.detectionLimiter state.clock
      match routed.1 with
      | .ok update =>
          some ({ state with detectionLimiter := routed.2 }.setStage id (.recording update))
      -- A message that cannot be routed is logged and dropped.
      | .error _ => some ({ state with detectionLimiter := routed.2 }.setStage id .reading)
  | .recording update => state.record id update
  | .correlating nodeId taskId status reasons _ =>
      let command := state.taskCommands.lookup taskId
      some ({ state with taskCommands := state.taskCommands.erase taskId }.setStage id
        (.emitting (.taskAcknowledged nodeId taskId command status reasons)))
  | .emitting update =>
      match state.updates.send ⟨id, update⟩ with
      | none => none
      | some updates => some ({ state with updates := updates }.setStage id .reading)
  | .disconnecting nodeId =>
      if state.connectionsLock.isSome then none
      else
        -- By node id alone: whichever connection the entry now belongs to.
        some ({ state with connections := state.connections.erase nodeId }.setStage id
          (.unregistering nodeId))
  | .unregistering nodeId =>
      some ({ state with registry := state.registry.remove nodeId }.setStage id
        (.announcing nodeId))
  | .announcing nodeId =>
      match state.updates.send ⟨id, .nodeDisconnected nodeId⟩ with
      | none => none
      | some updates => some ({ state with updates := updates }.setStage id .closed)

def step (config : BridgeConfig F) (state : Bridge F) : Action F → Option (Bridge F)
  | .tick elapsed systemTime =>
      some { state with clock := state.clock + elapsed, systemTime := systemTime }
  | .sendTask id nodeId msg commandId =>
      match state.calls id with
      | .idle => some (state.setCall id (startSendTask nodeId msg commandId))
      | _ => none
  | .sendAlertAck id nodeId alertId status reasons =>
      match state.calls id with
      | .idle =>
          some (state.setCall id (.alerting nodeId
            (makeAlertAck state.systemTime config.nodeId nodeId alertId status reasons)))
      | _ => none
  | .advance id => state.stepCall id
  | .receive id msg =>
      match (state.conns id).stage with
      | .reading => some (state.setConn id (state.arrive id msg))
      | _ => none
  | .hangUp id =>
      match (state.conns id).stage with
      | .reading => some (state.setStage id (state.hungUp id))
      | _ => none
  | .proceed id => state.stepConn config id
  | .writerTakes id =>
      match (state.conns id).writing, (state.conns id).write.recv with
      | none, some (out, write) =>
          some (state.setConn id { state.conns id with write := write, writing := some out })
      | _, _ => none
  | .writerWrote id ok =>
      match (state.conns id).writing with
      | none => none
      | some _ =>
          -- After a failed write the task ends and its receiver is dropped.
          let write := if ok then (state.conns id).write else (state.conns id).write.close
          some (state.setConn id { state.conns id with write := write, writing := none })
  | .consume =>
      match state.updates.recv with
      | none => none
      | some (_, updates) => some { state with updates := updates }
  | .dropReceiver => some { state with updates := state.updates.close }

def machine (config : BridgeConfig F) : Machine (Bridge F) (Action F) where
  init := new config
  step := step config

/-! Small messages and a configuration without limits, for worked runs. -/

def plainConfig : BridgeConfig Float where
  nodeId := "hldmm"
  detectionRateLimit := none
  taskQueueDepth := 32
  taskTtl := 300 * 1000000000

omit [FloatOps F] in
def registrationOf (nodeId : String) : SapientMessage F :=
  { nodeId := some nodeId, content := some (.registration {}) }

omit [FloatOps F] in
def taskMessage (taskId : String) : SapientMessage F :=
  { content := some (.task { taskId := some taskId }) }

omit [FloatOps F] in
def taskAckOf (nodeId taskId : String) (status : Int) : SapientMessage F :=
  { nodeId := some nodeId
    content := some (.taskAck { taskId := some taskId, taskStatus := some status }) }

end Bridge

end PeatSapient
