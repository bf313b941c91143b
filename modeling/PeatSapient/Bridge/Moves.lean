import PeatSapient.Bridge

/-! What one step of the bridge can do. Every step is one of the moves below,
with its guard and the state after it; what follows about runs is proved from
the moves, and the step function is not unfolded again. -/

namespace PeatSapient.Bridge

open HashMap Mpsc Execution

variable {F : Type}

def upsertOf : SapientUpdate F → Option (String × Option (CapabilityAdvertisement F))
  | .registered nodeId advertisement => some (nodeId, some advertisement)
  | .statusUpdated nodeId _ delta => some (nodeId, delta)
  | .detected nodeId _ => some (nodeId, none)
  | _ => none

def registryWrite :
    Except SapientError (SapientUpdate F) →
      Option (String × Option (CapabilityAdvertisement F))
  | .ok update => upsertOf update
  | .error _ => none

def actor : Action F → Option ConnId
  | .receive id _ | .hangUp id | .proceed id => some id
  | _ => none

def IsTaskAck : SapientUpdate F → Prop
  | .taskAcknowledged _ _ _ _ _ => True
  | _ => False

variable [FloatOps F]

inductive Moves (config : BridgeConfig F) (state : Bridge F) :
    Action F → Bridge F → Prop where
  | tick (elapsed systemTime : Nat) :
      Moves config state (.tick elapsed systemTime)
        { state with clock := state.clock + elapsed, systemTime := systemTime }
  | startTask (id : CallId) (nodeId : String) (msg : SapientMessage F)
      (commandId : Option String) (here : state.calls id = .idle) :
      Moves config state (.sendTask id nodeId msg commandId)
        (state.setCall id (startSendTask nodeId msg commandId))
  | startAlert (id : CallId) (nodeId alertId : String) (status : AlertAckStatus)
      (reasons : List String) (here : state.calls id = .idle) :
      Moves config state (.sendAlertAck id nodeId alertId status reasons)
        (state.setCall id (.alerting nodeId
          (makeAlertAck state.systemTime config.nodeId nodeId alertId status reasons)))
  | insert (id : CallId) (task : TaskCall F) (command : String)
      (here : state.calls id = .inserting task) (given : task.commandId = some command) :
      Moves config state (.advance id)
        ({ state with
          taskCommands := state.taskCommands.insert task.taskId command }.setCall id
            (.queueing task))
  | skipInsert (id : CallId) (task : TaskCall F) (here : state.calls id = .inserting task)
      (missing : task.commandId = none) :
      Moves config state (.advance id) (state.setCall id (.queueing task))
  | queue (id : CallId) (task : TaskCall F) (here : state.calls id = .queueing task)
      (free : state.queueLock = none) (clean : state.reaped id task = []) :
      Moves config state (.advance id)
        ({ state with taskQueue := state.queued id task }.setCall id (.connecting task))
  | queueReap (id : CallId) (task : TaskCall F) (here : state.calls id = .queueing task)
      (free : state.queueLock = none) (stale : state.reaped id task ≠ []) :
      Moves config state (.advance id)
        ({ state with
          taskQueue := state.queued id task
          queueLock := some (.call id) }.setCall id (.reaping task (state.reaped id task)))
  | callReap (id : CallId) (task : TaskCall F) (removed : List String)
      (here : state.calls id = .reaping task removed) :
      Moves config state (.advance id)
        ({ state with
          taskCommands := eraseAll removed state.taskCommands
          queueLock := none }.setCall id (.connecting task))
  | absent (id : CallId) (task : TaskCall F) (here : state.calls id = .connecting task)
      (free : state.connectionsLock = none)
      (missing : state.connections.lookup task.nodeId = none) :
      Moves config state (.advance id) (state.setCall id (.returned (.ok ())))
  | connect (id : CallId) (task : TaskCall F) (conn : ConnId)
      (here : state.calls id = .connecting task) (free : state.connectionsLock = none)
      (found : state.connections.lookup task.nodeId = some conn) :
      Moves config state (.advance id)
        ({ state with connectionsLock := some id }.setCall id
          (.delivering task.nodeId conn ⟨some id, task.msg⟩))
  | alertAbsent (id : CallId) (nodeId : String) (msg : SapientMessage F)
      (here : state.calls id = .alerting nodeId msg) (free : state.connectionsLock = none)
      (missing : state.connections.lookup nodeId = none) :
      Moves config state (.advance id)
        (state.setCall id (.returned (.error (.nodeNotFound nodeId))))
  | alertConnect (id : CallId) (nodeId : String) (msg : SapientMessage F) (conn : ConnId)
      (here : state.calls id = .alerting nodeId msg) (free : state.connectionsLock = none)
      (found : state.connections.lookup nodeId = some conn) :
      Moves config state (.advance id)
        ({ state with connectionsLock := some id }.setCall id
          (.delivering nodeId conn ⟨none, msg⟩))
  | deliver (id : CallId) (nodeId : String) (conn : ConnId) (out : Outgoing F)
      (write : Channel (Outgoing F)) (here : state.calls id = .delivering nodeId conn out)
      (sent : (state.conns conn).write.send out = some write) :
      Moves config state (.advance id)
        (({ state with connectionsLock := none }.setWrite conn write).setCall id
          (.returned (.ok ())))
  | register (id : ConnId) (msg : SapientMessage F)
      (here : (state.conns id).stage = .registering msg)
      (free : state.connectionsLock = none) :
      Moves config state (.proceed id)
        ({ state with connections := state.connections.insert msg.sender id }.setStage id
          (.acking msg))
  | acknowledgeRegistration (id : ConnId) (msg : SapientMessage F)
      (write : Channel (Outgoing F)) (here : (state.conns id).stage = .acking msg)
      (sent : (state.conns id).write.send
        ⟨none, makeRegistrationAck state.systemTime config.nodeId msg.sender⟩ = some write) :
      Moves config state (.proceed id)
        (state.setConn id
          { state.conns id with write := write, stage := .snapshotting msg })
  | snapshot (id : ConnId) (msg : SapientMessage F)
      (here : (state.conns id).stage = .snapshotting msg) (free : state.queueLock = none)
      (clean : (state.taskQueue.drainExpired state.clock).1 = []) :
      Moves config state (.proceed id)
        ({ state with taskQueue := (state.taskQueue.drainExpired state.clock).2 }.setStage id
          (.replaying msg
            ((state.taskQueue.drainExpired state.clock).2.pendingFor msg.sender)))
  | drain (id : ConnId) (msg : SapientMessage F)
      (here : (state.conns id).stage = .snapshotting msg) (free : state.queueLock = none)
      (stale : (state.taskQueue.drainExpired state.clock).1 ≠ []) :
      Moves config state (.proceed id)
        ({ state with
          taskQueue := (state.taskQueue.drainExpired state.clock).2
          queueLock := some (.conn id) }.setStage id
            (.reaping msg (state.taskQueue.drainExpired state.clock).1))
  | connReap (id : ConnId) (msg : SapientMessage F) (expired : List String)
      (here : (state.conns id).stage = .reaping msg expired) :
      Moves config state (.proceed id)
        ({ state with
          taskCommands := eraseAll expired state.taskCommands
          queueLock := none }.setStage id
            (.replaying msg (state.taskQueue.pendingFor msg.sender)))
  | replayed (id : ConnId) (msg : SapientMessage F)
      (here : (state.conns id).stage = .replaying msg []) :
      Moves config state (.proceed id) (state.setStage id (.locating msg))
  | replay (id : ConnId) (msg : SapientMessage F) (out : Outgoing F)
      (rest : List (Outgoing F)) (write : Channel (Outgoing F))
      (here : (state.conns id).stage = .replaying msg (out :: rest))
      (sent : (state.conns id).write.send out = some write) :
      Moves config state (.proceed id)
        (state.setConn id
          { state.conns id with write := write, stage := .replaying msg rest })
  | locate (id : ConnId) (msg : SapientMessage F)
      (here : (state.conns id).stage = .locating msg) :
      Moves config state (.proceed id)
        (state.setStage id (.routing msg (state.registry.getPosition msg.sender)))
  | route (id : ConnId) (msg : SapientMessage F) (position : Option (TrackPosition F))
      (update : SapientUpdate F) (limiter : Option (DetectionLimiter F))
      (here : (state.conns id).stage = .routing msg position)
      (routed : routeMessage msg position state.detectionLimiter state.clock =
        (.ok update, limiter)) :
      Moves config state (.proceed id)
        ({ state with detectionLimiter := limiter }.setStage id (.recording update))
  | reject (id : ConnId) (msg : SapientMessage F) (position : Option (TrackPosition F))
      (failure : SapientError) (limiter : Option (DetectionLimiter F))
      (here : (state.conns id).stage = .routing msg position)
      (routed : routeMessage msg position state.detectionLimiter state.clock =
        (.error failure, limiter)) :
      Moves config state (.proceed id)
        ({ state with detectionLimiter := limiter }.setStage id .reading)
  | upsert (id : ConnId) (update : SapientUpdate F) (nodeId : String)
      (capability : Option (CapabilityAdvertisement F))
      (here : (state.conns id).stage = .recording update)
      (writes : upsertOf update = some (nodeId, capability)) :
      Moves config state (.proceed id)
        ({ state with
          registry := state.registry.upsert state.clock nodeId capability none }.setStage id
            (.emitting update))
  | ackTask (id : ConnId) (nodeId taskId : String) (command : Option String)
      (status : TaskAckStatus) (reasons : List String)
      (here : (state.conns id).stage =
        .recording (.taskAcknowledged nodeId taskId command status reasons))
      (free : state.queueLock = none) :
      Moves config state (.proceed id)
        ({ state with taskQueue := state.taskQueue.ack nodeId taskId }.setStage id
          (.correlating nodeId taskId status reasons
            ((state.taskQueue.queueFor nodeId).any fun task => task.taskId == taskId)))
  | pass (id : ConnId) (update : SapientUpdate F)
      (here : (state.conns id).stage = .recording update) (silent : upsertOf update = none)
      (other : ¬ IsTaskAck update) :
      Moves config state (.proceed id) (state.setStage id (.emitting update))
  | correlate (id : ConnId) (nodeId taskId : String) (status : TaskAckStatus)
      (reasons : List String) (cleared : Bool)
      (here : (state.conns id).stage = .correlating nodeId taskId status reasons cleared) :
      Moves config state (.proceed id)
        ({ state with taskCommands := state.taskCommands.erase taskId }.setStage id
          (.emitting (.taskAcknowledged nodeId taskId (state.taskCommands.lookup taskId)
            status reasons)))
  | emit (id : ConnId) (update : SapientUpdate F) (updates : Channel (Emitted F))
      (here : (state.conns id).stage = .emitting update)
      (sent : state.updates.send ⟨id, update⟩ = some updates) :
      Moves config state (.proceed id) ({ state with updates := updates }.setStage id .reading)
  | disconnect (id : ConnId) (nodeId : String)
      (here : (state.conns id).stage = .disconnecting nodeId)
      (free : state.connectionsLock = none) :
      Moves config state (.proceed id)
        ({ state with connections := state.connections.erase nodeId }.setStage id
          (.unregistering nodeId))
  | unregister (id : ConnId) (nodeId : String)
      (here : (state.conns id).stage = .unregistering nodeId) :
      Moves config state (.proceed id)
        ({ state with registry := state.registry.remove nodeId }.setStage id
          (.announcing nodeId))
  | announce (id : ConnId) (nodeId : String) (updates : Channel (Emitted F))
      (here : (state.conns id).stage = .announcing nodeId)
      (sent : state.updates.send ⟨id, .nodeDisconnected nodeId⟩ = some updates) :
      Moves config state (.proceed id) ({ state with updates := updates }.setStage id .closed)
  | receive (id : ConnId) (msg : SapientMessage F)
      (here : (state.conns id).stage = .reading) :
      Moves config state (.receive id msg) (state.setConn id (state.arrive id msg))
  | hangUp (id : ConnId) (here : (state.conns id).stage = .reading) :
      Moves config state (.hangUp id) (state.setStage id (state.hungUp id))
  | writerTakes (id : ConnId) (out : Outgoing F) (write : Channel (Outgoing F))
      (taken : (state.conns id).write.recv = some (out, write)) :
      Moves config state (.writerTakes id)
        (state.setConn id { state.conns id with write := write, writing := some out })
  | writerWrote (id : ConnId) (out : Outgoing F)
      (busy : (state.conns id).writing = some out) :
      Moves config state (.writerWrote id true)
        (state.setConn id { state.conns id with writing := none })
  | writerFailed (id : ConnId) (out : Outgoing F)
      (busy : (state.conns id).writing = some out) :
      Moves config state (.writerWrote id false)
        (state.setConn id
          { state.conns id with write := (state.conns id).write.close, writing := none })
  | consume (emitted : Emitted F) (updates : Channel (Emitted F))
      (taken : state.updates.recv = some (emitted, updates)) :
      Moves config state .consume { state with updates := updates }
  | dropReceiver :
      Moves config state .dropReceiver { state with updates := state.updates.close }

/-- Only a Registration, a StatusReport or a DetectionReport that is let through and mapped
is written, and under its sender. -/
theorem registryWrite_routed (msg : SapientMessage F) (position : Option (TrackPosition F))
    (limiter : Option (DetectionLimiter F)) (now : Nat) :
    registryWrite (routeMessage msg position limiter now).1 =
      match msg.content with
      | some (.registration reg) => some (msg.sender, some (fromRegistration msg.sender reg))
      | some (.statusReport report) => some (msg.sender, capabilityDelta msg.sender report)
      | some (.detectionReport report) =>
          if (admits limiter now msg.sender).1 &&
              (fromDetectionReport msg.sender position report).isOk then
            some (msg.sender, none)
          else none
      | _ => none := by
  cases content : msg.content with
  | none => simp [routeMessage, content, registryWrite, upsertOf]
  | some body =>
      cases body with
      | statusReport report =>
          simp [routeMessage, content, registryWrite, upsertOf, fromStatusReport]
      | detectionReport report =>
          simp only [routeMessage, content]
          split
          · next admitted =>
              cases mapped : fromDetectionReport msg.sender position report with
              | ok track => simp [registryWrite, upsertOf, admitted, Except.isOk, Except.toBool]
              | error failure => simp [registryWrite, Except.isOk, Except.toBool]
          · next held => simp [registryWrite, upsertOf, held]
      | _ => simp [routeMessage, content, registryWrite, upsertOf]

theorem free_of_not_isSome {α : Type} {lock : Option α} (held : ¬ lock.isSome = true) :
    lock = none := by
  simpa using held

theorem moves_of_stepCall (config : BridgeConfig F) {state after : Bridge F} {id : CallId}
    (taken : state.stepCall id = some after) : Moves config state (.advance id) after := by
  unfold stepCall at taken
  split at taken
  · cases taken
  · cases taken
  · next task here =>
      split at taken
      · next command given =>
          cases taken
          exact Moves.insert id task command here given
      · next missing =>
          cases taken
          exact Moves.skipInsert id task here missing
  · next task here =>
      split at taken
      · cases taken
      · next held =>
          split at taken
          · next clean =>
              cases taken
              exact Moves.queue id task here (free_of_not_isSome held)
                (List.isEmpty_iff.mp clean)
          · next stale =>
              cases taken
              exact Moves.queueReap id task here (free_of_not_isSome held)
                (fun clean => stale (List.isEmpty_iff.mpr clean))
  · next task removed here =>
      cases taken
      exact Moves.callReap id task removed here
  · next task here =>
      split at taken
      · cases taken
      · next held =>
          split at taken
          · next missing =>
              cases taken
              exact Moves.absent id task here (free_of_not_isSome held) missing
          · next conn found =>
              cases taken
              exact Moves.connect id task conn here (free_of_not_isSome held) found
  · next nodeId msg here =>
      split at taken
      · cases taken
      · next held =>
          split at taken
          · next missing =>
              cases taken
              exact Moves.alertAbsent id nodeId msg here (free_of_not_isSome held) missing
          · next conn found =>
              cases taken
              exact Moves.alertConnect id nodeId msg conn here (free_of_not_isSome held) found
  · next nodeId conn out here =>
      split at taken
      · cases taken
      · next write sent =>
          cases taken
          exact Moves.deliver id nodeId conn out write here sent

theorem moves_of_record (config : BridgeConfig F) {state after : Bridge F} {id : ConnId}
    {update : SapientUpdate F} (here : (state.conns id).stage = .recording update)
    (taken : state.record id update = some after) :
    Moves config state (.proceed id) after := by
  cases update with
  | registered nodeId advertisement =>
      cases taken
      exact Moves.upsert id _ nodeId (some advertisement) here rfl
  | statusUpdated nodeId report delta =>
      cases taken
      exact Moves.upsert id _ nodeId delta here rfl
  | detected nodeId track =>
      cases taken
      exact Moves.upsert id _ nodeId none here rfl
  | taskAcknowledged nodeId taskId command status reasons =>
      simp only [record] at taken
      split at taken
      · cases taken
      · next held =>
          cases taken
          exact Moves.ackTask id nodeId taskId command status reasons here
            (free_of_not_isSome held)
  | alerted nodeId event =>
      cases taken
      exact Moves.pass id _ here rfl not_false
  | alertAcknowledged nodeId alertId status reasons =>
      cases taken
      exact Moves.pass id _ here rfl not_false
  | ignored reason =>
      cases taken
      exact Moves.pass id _ here rfl not_false
  | nodeDisconnected nodeId =>
      cases taken
      exact Moves.pass id _ here rfl not_false

theorem moves_of_stepConn (config : BridgeConfig F) {state after : Bridge F} {id : ConnId}
    (taken : stepConn config state id = some after) :
    Moves config state (.proceed id) after := by
  unfold stepConn at taken
  split at taken
  · cases taken
  · cases taken
  · next msg here =>
      split at taken
      · cases taken
      · next held =>
          cases taken
          exact Moves.register id msg here (free_of_not_isSome held)
  · next msg here =>
      dsimp only at taken
      split at taken
      · cases taken
      · next write sent =>
          cases taken
          exact Moves.acknowledgeRegistration id msg write here sent
  · next msg here =>
      split at taken
      · cases taken
      · next held =>
          dsimp only at taken
          split at taken
          · next clean =>
              cases taken
              exact Moves.snapshot id msg here (free_of_not_isSome held)
                (List.isEmpty_iff.mp clean)
          · next stale =>
              cases taken
              exact Moves.drain id msg here (free_of_not_isSome held)
                (fun clean => stale (List.isEmpty_iff.mpr clean))
  · next msg expired here =>
      cases taken
      exact Moves.connReap id msg expired here
  · next msg here =>
      cases taken
      exact Moves.replayed id msg here
  · next msg out rest here =>
      split at taken
      · cases taken
      · next write sent =>
          cases taken
          exact Moves.replay id msg out rest write here sent
  · next msg here =>
      cases taken
      exact Moves.locate id msg here
  · next msg position here =>
      dsimp only at taken
      split at taken
      · next update routed =>
          cases taken
          exact Moves.route id msg position update _ here (Prod.ext routed rfl)
      · next failure routed =>
          cases taken
          exact Moves.reject id msg position failure _ here (Prod.ext routed rfl)
  · next update here => exact moves_of_record config here taken
  · next nodeId taskId status reasons cleared here =>
      cases taken
      exact Moves.correlate id nodeId taskId status reasons cleared here
  · next update here =>
      split at taken
      · cases taken
      · next updates sent =>
          cases taken
          exact Moves.emit id update updates here sent
  · next nodeId here =>
      split at taken
      · cases taken
      · next held =>
          cases taken
          exact Moves.disconnect id nodeId here (free_of_not_isSome held)
  · next nodeId here =>
      cases taken
      exact Moves.unregister id nodeId here
  · next nodeId here =>
      split at taken
      · cases taken
      · next updates sent =>
          cases taken
          exact Moves.announce id nodeId updates here sent

theorem moves_of_step (config : BridgeConfig F) {state after : Bridge F} {action : Action F}
    (taken : step config state action = some after) : Moves config state action after := by
  cases action with
  | tick elapsed systemTime =>
      cases taken
      exact Moves.tick elapsed systemTime
  | sendTask id nodeId msg commandId =>
      simp only [step] at taken
      split at taken
      · next here =>
          cases taken
          exact Moves.startTask id nodeId msg commandId here
      · cases taken
  | sendAlertAck id nodeId alertId status reasons =>
      simp only [step] at taken
      split at taken
      · next here =>
          cases taken
          exact Moves.startAlert id nodeId alertId status reasons here
      · cases taken
  | advance id => exact moves_of_stepCall config taken
  | receive id msg =>
      simp only [step] at taken
      split at taken
      · next here =>
          cases taken
          exact Moves.receive id msg here
      · cases taken
  | hangUp id =>
      simp only [step] at taken
      split at taken
      · next here =>
          cases taken
          exact Moves.hangUp id here
      · cases taken
  | proceed id => exact moves_of_stepConn config taken
  | writerTakes id =>
      simp only [step] at taken
      split at taken
      · next out write idle recv =>
          cases taken
          exact Moves.writerTakes id out write recv
      · cases taken
  | writerWrote id ok =>
      simp only [step] at taken
      split at taken
      · cases taken
      · next out busy =>
          cases ok with
          | true =>
              cases taken
              exact Moves.writerWrote id out busy
          | false =>
              cases taken
              exact Moves.writerFailed id out busy
  | consume =>
      simp only [step] at taken
      split at taken
      · cases taken
      · next emitted updates recv =>
          cases taken
          exact Moves.consume emitted updates recv
  | dropReceiver =>
      cases taken
      exact Moves.dropReceiver

/-- Only its own reading, hanging up and proceeding change what a connection is doing. -/
theorem frame_step (config : BridgeConfig F) {state after : Bridge F} {action : Action F}
    (moved : Moves config state action after) {conn : ConnId}
    (apart : actor action ≠ some conn) :
    (after.conns conn).stage = (state.conns conn).stage ∧
      (after.conns conn).registered = (state.conns conn).registered := by
  cases moved with
  | deliver id nodeId target | writerTakes target | writerWrote target | writerFailed target =>
      by_cases same : conn = target
      · subst same
        simp [setCall, setWrite, setConn]
      · simp [setCall, setWrite, setConn, same]
  | register id | acknowledgeRegistration id | snapshot id | drain id | connReap id
  | replayed id | replay id | locate id | route id | reject id | upsert id | ackTask id
  | pass id | correlate id | emit id | disconnect id | unregister id | announce id
  | receive id | hangUp id =>
      have other : conn ≠ id := fun same => apart (by rw [same]; rfl)
      simp [setStage, setConn, other]
  | _ => exact ⟨rfl, rfl⟩

end PeatSapient.Bridge
