import PeatSapient.Bridge.Moves

/-! At-least-once delivery. A task pending for a node that has a connection is
offered to that connection: by the replay of its Registration, or by the call
that enqueued the task. -/

namespace PeatSapient.Bridge

open HashMap Mpsc Execution

variable {F : Type}

def registrationAt : Stage F → Option (SapientMessage F)
  | .registering msg => some msg
  | .acking msg => some msg
  | .snapshotting msg => some msg
  | .reaping msg _ => some msg
  | .replaying msg _ => some msg
  | _ => none

def awaits (out : Outgoing F) : Stage F → Prop
  | .acking _ => True
  | .snapshotting _ => True
  | .reaping _ _ => True
  | .replaying _ pending => out ∈ pending
  | _ => False

def betweenEnqueueAndPush (nodeId : String) : ApiCall F → Prop
  | .reaping task _ => task.nodeId = nodeId
  | .connecting task => task.nodeId = nodeId
  | .delivering target _ out => target = nodeId ∧ out.origin.isSome = true
  | _ => False

def carries (id : CallId) (nodeId : String) (out : Outgoing F) : ApiCall F → Prop
  | .reaping task _ => task.nodeId = nodeId ∧ out = ⟨some id, task.msg⟩
  | .connecting task => task.nodeId = nodeId ∧ out = ⟨some id, task.msg⟩
  | .delivering target _ sent =>
      target = nodeId ∧ out = sent ∧ sent.origin.isSome = true
  | _ => False

theorem carries_between {id : CallId} {nodeId : String} {out : Outgoing F} {call : ApiCall F}
    (carried : carries id nodeId out call) : betweenEnqueueAndPush nodeId call := by
  cases call <;> simp_all [carries, betweenEnqueueAndPush]

/-- A delivering call holds the lock of the connections, which then still have the
connection it found. -/
def DeliveriesLocked (state : Bridge F) : Prop :=
  ∀ id nodeId conn out, state.calls id = .delivering nodeId conn out →
    state.connectionsLock = some id ∧ state.connections.lookup nodeId = some conn

/-- A connection is entered under the id it registered with, which is the sender of
the Registration it handles. -/
structure Registered (state : Bridge F) : Prop where
  entered : ∀ nodeId conn, state.connections.lookup nodeId = some conn →
    (state.conns conn).registered = some nodeId
  handling : ∀ conn msg, registrationAt (state.conns conn).stage = some msg →
    (state.conns conn).registered = some msg.sender

def Covered (state : Bridge F) (nodeId : String) (conn : ConnId) (out : Outgoing F) : Prop :=
  (state.conns conn).write.Offered out ∨ awaits out (state.conns conn).stage ∨
    ∃ id, carries id nodeId out (state.calls id)

def AllCovered (state : Bridge F) : Prop :=
  ∀ nodeId conn, state.connections.lookup nodeId = some conn →
    ∀ task ∈ state.taskQueue.queueFor nodeId, Covered state nodeId conn task.msg

theorem startSendTask_cases (nodeId : String) (msg : SapientMessage F)
    (commandId : Option String) :
    (∃ result, startSendTask nodeId msg commandId = .returned result) ∨
      ∃ task, startSendTask nodeId msg commandId = .inserting task := by
  unfold startSendTask
  split
  · exact Or.inl ⟨_, rfl⟩
  · exact Or.inr ⟨_, rfl⟩

theorem DeliveriesLocked.setCall {state : Bridge F} (held : DeliveriesLocked state)
    (id : CallId) (call : ApiCall F)
    (silent : ∀ target conn out, call ≠ .delivering target conn out) :
    DeliveriesLocked (state.setCall id call) := by
  intro other target conn out delivering
  by_cases same : other = id
  · subst same
    exact absurd (by simpa [Bridge.setCall] using delivering) (silent target conn out)
  · exact held other target conn out (by simpa [Bridge.setCall, same] using delivering)

theorem DeliveriesLocked.congr {before after : Bridge F} (held : DeliveriesLocked before)
    (lock : after.connectionsLock = before.connectionsLock)
    (connections : after.connections = before.connections)
    (calls : after.calls = before.calls) : DeliveriesLocked after := by
  unfold DeliveriesLocked at *
  rw [lock, connections, calls]
  exact held

theorem DeliveriesLocked.of_free {before after : Bridge F} (held : DeliveriesLocked before)
    (free : before.connectionsLock = none) (calls : after.calls = before.calls) :
    DeliveriesLocked after := by
  intro id target conn out delivering
  rw [calls] at delivering
  have locked := (held id target conn out delivering).1
  rw [free] at locked
  cases locked

theorem DeliveriesLocked.lock {state : Bridge F} (held : DeliveriesLocked state)
    (free : state.connectionsLock = none) (id : CallId) (nodeId : String) (conn : ConnId)
    (out : Outgoing F) (found : state.connections.lookup nodeId = some conn) :
    DeliveriesLocked ({ state with connectionsLock := some id }.setCall id
      (.delivering nodeId conn out)) := by
  intro other target other_conn sent delivering
  by_cases same : other = id
  · subst same
    have shape : nodeId = target ∧ conn = other_conn ∧ out = sent := by
      simpa [Bridge.setCall] using delivering
    obtain ⟨rfl, rfl, rfl⟩ := shape
    exact ⟨rfl, found⟩
  · have locked := (held other target other_conn sent
      (by simpa [Bridge.setCall, same] using delivering)).1
    rw [free] at locked
    cases locked

variable [FloatOps F]

theorem deliveriesLocked_step (config : BridgeConfig F) {state after : Bridge F}
    {action : Action F} (held : DeliveriesLocked state)
    (moved : Moves config state action after) : DeliveriesLocked after := by
  cases moved with
  | startTask id nodeId msg commandId here =>
      rcases startSendTask_cases nodeId msg commandId with ⟨result, shape⟩ | ⟨task, shape⟩ <;>
        exact held.setCall id _ (by simp [shape])
  | startAlert id nodeId alertId status reasons here
  | skipInsert id task here missing
  | absent id task here free missing
  | alertAbsent id nodeId msg here free missing =>
      exact held.setCall id _ (by simp)
  | insert id task command here given
  | queue id task here free clean
  | queueReap id task here free stale
  | callReap id task removed here =>
      exact DeliveriesLocked.setCall (held.congr rfl rfl rfl) id _ (by simp)
  | connect id task conn here free found => exact held.lock free id _ conn _ found
  | alertConnect id nodeId msg conn here free found => exact held.lock free id _ conn _ found
  | deliver id nodeId conn out write here sent =>
      intro other target other_conn delivered delivering
      by_cases same : other = id
      · subst same
        simp [setCall] at delivering
      · have mine := (held id nodeId conn out here).1
        have theirs := (held other target other_conn delivered
          (by simpa [setCall, setWrite, setConn, same] using delivering)).1
        rw [mine] at theirs
        exact absurd (Option.some.inj theirs).symm same
  | register id msg here free
  | disconnect id nodeId here free =>
      exact held.of_free free rfl
  | _ => exact held.congr rfl rfl rfl

omit [FloatOps F] in
theorem Registered.setConn {state : Bridge F} (held : Registered state) (id : ConnId)
    (conn : Connection F) (same : conn.registered = (state.conns id).registered)
    (handled : ∀ msg, registrationAt conn.stage = some msg →
      registrationAt (state.conns id).stage = some msg) :
    Registered (state.setConn id conn) where
  entered := by
    intro nodeId other found
    by_cases here : other = id
    · subst here
      simpa [Bridge.setConn, same] using held.entered nodeId other found
    · simpa [Bridge.setConn, here] using held.entered nodeId other found
  handling := by
    intro other msg at_
    by_cases here : other = id
    · subst here
      simp only [Bridge.setConn, Function.update_self] at at_ ⊢
      rw [same]
      exact held.handling other msg (handled msg at_)
    · simp only [Bridge.setConn, Function.update_of_ne here] at at_ ⊢
      exact held.handling other msg at_

omit [FloatOps F] in
theorem Registered.congr {before after : Bridge F} (held : Registered before)
    (connections : ∀ nodeId conn, after.connections.lookup nodeId = some conn →
      before.connections.lookup nodeId = some conn)
    (conns : after.conns = before.conns) : Registered after where
  entered := fun nodeId conn found => by
    rw [conns]
    exact held.entered nodeId conn (connections nodeId conn found)
  handling := fun conn msg at_ => by
    rw [conns] at at_ ⊢
    exact held.handling conn msg at_

theorem registered_step (config : BridgeConfig F) {state after : Bridge F}
    {action : Action F} (held : Registered state)
    (moved : Moves config state action after) : Registered after := by
  cases moved with
  | register id msg here free =>
      have own : (state.conns id).registered = some msg.sender :=
        held.handling id msg (by simp [here, registrationAt])
      have inserted : Registered { state with
          connections := state.connections.insert msg.sender id } := by
        refine ⟨fun nodeId conn found => ?_, held.handling⟩
        rw [lookup_insert_eq] at found
        split at found
        · next same =>
            cases found
            rw [same]
            exact own
        · exact held.entered nodeId conn found
      exact inserted.setConn id _ rfl (by simp [here, registrationAt])
  | disconnect id nodeId here free =>
      have erased : Registered { state with
          connections := state.connections.erase nodeId } := by
        exact held.congr (fun _ _ found => lookup_of_erase found) rfl
      exact erased.setConn id _ rfl (by simp [registrationAt])
  | receive id msg here =>
      unfold arrive
      split
      · next first =>
          refine ⟨fun nodeId other found => ?_, fun other handled at_ => ?_⟩
          · by_cases same : other = id
            · subst same
              have old := held.entered nodeId other found
              simp [old] at first
            · simpa [setConn, same] using held.entered nodeId other found
          · by_cases same : other = id
            · subst same
              simp only [setConn, Function.update_self, registrationAt,
                Option.some.injEq] at at_ ⊢
              rw [at_]
            · simp only [setConn, Function.update_of_ne same] at at_ ⊢
              exact held.handling other handled at_
      · exact held.setConn id _ rfl (by simp [registrationAt])
  | hangUp id here =>
      refine held.setConn id _ rfl (fun msg at_ => ?_)
      unfold hungUp at at_
      split at at_ <;> simp [registrationAt] at at_
  | deliver id nodeId conn out write here sent =>
      exact Registered.congr (held.setConn conn { state.conns conn with write := write } rfl
        (fun _ at_ => at_)) (fun _ _ found => found) rfl
  | writerTakes id out write taken
  | writerWrote id
  | writerFailed id =>
      exact held.setConn id _ rfl (fun _ at_ => at_)
  | acknowledgeRegistration id msg write here sent
  | snapshot id msg here free clean
  | drain id msg here free stale
  | connReap id msg expired here
  | replayed id msg here
  | replay id msg out rest write here sent
  | locate id msg here
  | route id msg position update limiter here routed
  | reject id msg position failure limiter here routed
  | upsert id update nodeId capability here writes
  | ackTask id nodeId taskId command status reasons here free
  | pass id update here silent other
  | correlate id nodeId taskId status reasons cleared here
  | emit id update updates here sent
  | unregister id nodeId here
  | announce id nodeId updates here sent =>
      refine Registered.congr (held.setConn id _ ?_ ?_) (fun _ _ found => found) rfl
      · rfl
      · simp [here, registrationAt]
  | _ => exact held.congr (fun _ _ found => found) rfl

omit [FloatOps F] in
theorem Covered.setCall {state : Bridge F} {nodeId : String} {conn : ConnId}
    {out : Outgoing F} (covered : Covered state nodeId conn out) (id : CallId)
    (call : ApiCall F)
    (kept : carries id nodeId out (state.calls id) → carries id nodeId out call) :
    Covered (state.setCall id call) nodeId conn out := by
  rcases covered with offered | waiting | ⟨other, carried⟩
  · exact Or.inl offered
  · exact Or.inr (Or.inl waiting)
  · refine Or.inr (Or.inr ⟨other, ?_⟩)
    by_cases same : other = id
    · subst same
      simpa [Bridge.setCall] using kept carried
    · simpa [Bridge.setCall, same] using carried

omit [FloatOps F] in
theorem Covered.setConn {state : Bridge F} {nodeId : String} {conn : ConnId}
    {out : Outgoing F} (covered : Covered state nodeId conn out) (id : ConnId)
    (changed : Connection F)
    (offered : (state.conns id).write.Offered out → changed.write.Offered out)
    (waiting : conn = id → awaits out (state.conns id).stage →
      changed.write.Offered out ∨ awaits out changed.stage) :
    Covered (state.setConn id changed) nodeId conn out := by
  by_cases same : conn = id
  · subst same
    rcases covered with before | before | carried
    · exact Or.inl (by simpa [Bridge.setConn] using offered before)
    · rcases waiting rfl before with now | now
      · exact Or.inl (by simpa [Bridge.setConn] using now)
      · exact Or.inr (Or.inl (by simpa [Bridge.setConn] using now))
    · exact Or.inr (Or.inr carried)
  · rcases covered with before | before | carried
    · exact Or.inl (by simpa [Bridge.setConn, same] using before)
    · exact Or.inr (Or.inl (by simpa [Bridge.setConn, same] using before))
    · exact Or.inr (Or.inr carried)

omit [FloatOps F] in
theorem Covered.congr {before after : Bridge F} {nodeId : String} {conn : ConnId}
    {out : Outgoing F} (covered : Covered before nodeId conn out)
    (conns : after.conns = before.conns) (calls : after.calls = before.calls) :
    Covered after nodeId conn out := by
  unfold Covered at *
  rw [conns, calls]
  exact covered

omit [FloatOps F] in
/-- The obligations only shrink, and those left are still met. -/
theorem AllCovered.mono {before after : Bridge F} (held : AllCovered before)
    (connections : ∀ nodeId conn, after.connections.lookup nodeId = some conn →
      before.connections.lookup nodeId = some conn)
    (queue : ∀ nodeId, ∀ task ∈ after.taskQueue.queueFor nodeId,
      task ∈ before.taskQueue.queueFor nodeId)
    (covered : ∀ nodeId conn, before.connections.lookup nodeId = some conn →
      ∀ task ∈ after.taskQueue.queueFor nodeId,
        Covered before nodeId conn task.msg → Covered after nodeId conn task.msg) :
    AllCovered after := by
  intro nodeId conn found task member
  have older := connections nodeId conn found
  have earlier := held nodeId conn older task (queue nodeId task member)
  exact covered nodeId conn older task member earlier

omit [FloatOps F] in
theorem mem_drain {queue : TaskQueue (Outgoing F)} (now : Nat) {nodeId : String}
    {task : QueuedTask (Outgoing F)}
    (member : task ∈ (queue.drainExpired now).2.queueFor nodeId) :
    task ∈ queue.queueFor nodeId := by
  rw [TaskQueue.queueFor_drain] at member
  exact List.mem_of_mem_filter member

omit [FloatOps F] in
theorem mem_queued {state : Bridge F} {id : CallId} {task : TaskCall F} {nodeId : String}
    {entry : QueuedTask (Outgoing F)}
    (member : entry ∈ (state.queued id task).queueFor nodeId) :
    entry ∈ state.taskQueue.queueFor nodeId ∨
      (task.nodeId = nodeId ∧ entry.msg = ⟨some id, task.msg⟩) := by
  rw [queued, TaskQueue.queueFor_enqueue] at member
  split at member
  · next same =>
      rcases List.mem_append.mp member with kept | own
      · left
        rw [same]
        apply mem_drain state.clock
        unfold TaskQueue.keptFor at kept
        split at kept
        · exact List.mem_of_mem_tail kept
        · exact kept
      · right
        rw [List.mem_singleton.mp own]
        exact ⟨same.symm, rfl⟩
  · exact Or.inl (mem_drain _ member)

omit [FloatOps F] in
theorem AllCovered.setCall {state : Bridge F} (held : AllCovered state) (id : CallId)
    (call : ApiCall F) (quiet : ∀ nodeId out, ¬ carries id nodeId out (state.calls id)) :
    AllCovered (state.setCall id call) :=
  held.mono (fun _ _ found => found) (fun _ _ member => member)
    fun nodeId _ _ task _ covered =>
      covered.setCall id call fun carried => absurd carried (quiet nodeId task.msg)

omit [FloatOps F] in
theorem AllCovered.setConn {state : Bridge F} (held : AllCovered state) (id : ConnId)
    (changed : Connection F)
    (offered : ∀ out, (state.conns id).write.Offered out → changed.write.Offered out)
    (waiting : ∀ out, awaits out (state.conns id).stage →
      changed.write.Offered out ∨ awaits out changed.stage) :
    AllCovered (state.setConn id changed) :=
  held.mono (fun _ _ found => found) (fun _ _ member => member)
    fun _ _ _ task _ covered =>
      covered.setConn id changed (offered task.msg) fun _ => waiting task.msg

omit [FloatOps F] in
theorem AllCovered.congr {before after : Bridge F} (held : AllCovered before)
    (connections : after.connections = before.connections)
    (queue : after.taskQueue = before.taskQueue) (conns : after.conns = before.conns)
    (calls : after.calls = before.calls) : AllCovered after := by
  refine held.mono (fun nodeId conn found => ?_) (fun nodeId task member => ?_)
    fun nodeId conn _ task _ covered => covered.congr conns calls
  · rwa [connections] at found
  · rwa [queue] at member

omit [FloatOps F] in
theorem allCovered_queued {state after : Bridge F} (held : AllCovered state) (id : CallId)
    (task : TaskCall F) (here : state.calls id = .queueing task) (call : ApiCall F)
    (own : carries id task.nodeId ⟨some id, task.msg⟩ call)
    (connections : after.connections = state.connections)
    (queue : after.taskQueue = state.queued id task) (conns : after.conns = state.conns)
    (calls : after.calls = Function.update state.calls id call) : AllCovered after := by
  intro nodeId conn found entry member
  rw [connections] at found
  rw [queue] at member
  rcases mem_queued member with older | ⟨target, shape⟩
  · have moved := (held nodeId conn found entry older).setCall id call (by simp [here, carries])
    exact moved.congr conns calls
  · refine Or.inr (Or.inr ⟨id, ?_⟩)
    rw [calls, Function.update_self, shape, ← target]
    exact own

omit [FloatOps F] in
/-- A replay that starts with everything pending covers everything pending. -/
theorem allCovered_replaying {state after : Bridge F} (held : AllCovered state)
    (registered : Registered state) (id : ConnId) (msg : SapientMessage F)
    (at_ : registrationAt (state.conns id).stage = some msg)
    (connections : after.connections = state.connections)
    (queue : ∀ nodeId, ∀ task ∈ after.taskQueue.queueFor nodeId,
      task ∈ state.taskQueue.queueFor nodeId)
    (calls : after.calls = state.calls)
    (conns : after.conns = Function.update state.conns id
      { state.conns id with stage := .replaying msg (after.taskQueue.pendingFor msg.sender) }) :
    AllCovered after := by
  refine held.mono (fun nodeId conn found => ?_) queue
    fun nodeId conn found task member covered => ?_
  · rwa [connections] at found
  · have pending : conn = id → task.msg ∈ after.taskQueue.pendingFor msg.sender := by
      intro same
      subst same
      have sender : nodeId = msg.sender := by
        simpa [registered.entered nodeId conn found] using registered.handling conn msg at_
      subst sender
      exact List.mem_map_of_mem member
    have moved := covered.setConn id
      { state.conns id with stage := .replaying msg (after.taskQueue.pendingFor msg.sender) }
      (fun offered => offered) fun same _ => Or.inr (pending same)
    exact moved.congr conns calls

omit [FloatOps F] in
theorem allCovered_deliver {state : Bridge F} (locked : DeliveriesLocked state)
    (held : AllCovered state) (id : CallId) (target : String) (delivered : ConnId)
    (out : Outgoing F) (write : Channel (Outgoing F))
    (here : state.calls id = .delivering target delivered out)
    (sent : (state.conns delivered).write.send out = some write) :
    AllCovered (({ state with connectionsLock := none }.setWrite delivered write).setCall id
      (.returned (.ok ()))) := by
  refine held.mono (fun _ _ found => found) (fun _ _ member => member)
    fun nodeId conn found entry member covered => ?_
  have written := covered.setConn delivered { state.conns delivered with write := write }
    (fun offered => (Channel.offered_send sent entry.msg).mpr (Or.inl offered))
    fun _ waiting => Or.inr waiting
  -- The call gives up what it carried, which is what it has just pushed.
  by_cases mine : target = nodeId ∧ entry.msg = out
  · obtain ⟨rfl, same⟩ := mine
    -- The guard was held since the lookup, so the entry is still the same.
    have target_conn := (locked id target delivered out here).2
    rw [found] at target_conn
    cases target_conn
    left
    simpa [setCall, setWrite, setConn, same] using
      (Channel.offered_send sent out).mpr (Or.inr rfl)
  · have moved := written.setCall id (.returned (.ok ())) fun carried => by
      simp only [setConn, here, carries] at carried
      exact mine ⟨carried.1, carried.2.1⟩
    exact moved.congr rfl rfl

omit [FloatOps F] in
theorem allCovered_register {state : Bridge F} (held : AllCovered state) (id : ConnId)
    (msg : SapientMessage F) :
    AllCovered ({ state with
      connections := state.connections.insert msg.sender id }.setStage id (.acking msg)) := by
  intro nodeId conn found task member
  -- A new entry starts out with its whole replay ahead of it.
  by_cases same : conn = id
  · subst same
    exact Or.inr (Or.inl (by simp [setStage, setConn, awaits]))
  · have older : state.connections.lookup nodeId = some conn := lookup_of_insert found same
    have covered := (held nodeId conn older task member).setConn id
      { state.conns id with stage := .acking msg } (fun offered => offered)
      fun own => absurd own same
    exact covered.congr rfl rfl

omit [FloatOps F] in
theorem allCovered_ackTask {state : Bridge F} (held : AllCovered state) (id : ConnId)
    (nodeId taskId : String) (command : Option String) (status : TaskAckStatus)
    (reasons : List String)
    (here : (state.conns id).stage =
      .recording (.taskAcknowledged nodeId taskId command status reasons)) :
    AllCovered ({ state with taskQueue := state.taskQueue.ack nodeId taskId }.setStage id
      (.correlating nodeId taskId status reasons
        ((state.taskQueue.queueFor nodeId).any fun task => task.taskId == taskId))) := by
  refine held.mono (fun _ _ found => found) (fun other task member => ?_)
    fun other conn found task member covered => ?_
  -- An ack only shortens queues.
  · have listed : task ∈ (state.taskQueue.ack nodeId taskId).queueFor other := member
    rw [TaskQueue.queueFor_ack] at listed
    split at listed
    · next same =>
        rw [same]
        exact List.mem_of_mem_filter listed
    · exact listed
  · have moved := covered.setConn id { state.conns id with
      stage := .correlating nodeId taskId status reasons
        ((state.taskQueue.queueFor nodeId).any fun task => task.taskId == taskId) }
      (fun offered => offered) (by simp [here, awaits])
    exact moved.congr rfl rfl

/-- A call takes over what it has enqueued, and gives it up with its push. -/
theorem allCovered_call (config : BridgeConfig F) {state after : Bridge F} {id : CallId}
    (locked : DeliveriesLocked state) (held : AllCovered state)
    (moved : Moves config state (.advance id) after) : AllCovered after := by
  cases moved with
  | skipInsert id task here missing
  | alertAbsent id nodeId msg here free missing =>
      exact held.setCall id _ (by simp [here, carries])
  | insert id task command here given
  | alertConnect id nodeId msg conn here free found =>
      exact AllCovered.congr (held.setCall id _ (by simp [here, carries])) rfl rfl rfl rfl
  | queue id task here free clean =>
      exact allCovered_queued held id task here (.connecting task) ⟨rfl, rfl⟩ rfl rfl rfl rfl
  | queueReap id task here free stale =>
      exact allCovered_queued held id task here (.reaping task (state.reaped id task))
        ⟨rfl, rfl⟩ rfl rfl rfl rfl
  | callReap id task removed here =>
      refine held.mono (fun _ _ found => found) (fun _ _ member => member)
        fun nodeId conn found entry member covered => ?_
      have moved := covered.setCall id (.connecting task) (by simp [here, carries])
      exact moved.congr rfl rfl
  | absent id task here free missing =>
      refine held.mono (fun _ _ found => found) (fun _ _ member => member)
        fun nodeId conn found entry member covered => ?_
      refine covered.setCall id _ fun carried => ?_
      -- The lookup found nothing, but the node has an entry: not this node's task.
      simp only [here, carries] at carried
      rw [carried.1, found] at missing
      cases missing
  | connect id task conn here free found =>
      refine held.mono (fun _ _ found => found) (fun _ _ member => member)
        fun nodeId other _ entry member covered => ?_
      have moved := covered.setCall id (.delivering task.nodeId conn ⟨some id, task.msg⟩)
        (by simp [here, carries])
      exact moved.congr rfl rfl
  | deliver id target delivered out write here sent =>
      exact allCovered_deliver locked held id target delivered out write here sent

theorem allCovered_conn (config : BridgeConfig F) {state after : Bridge F} {id : ConnId}
    (registered : Registered state) (held : AllCovered state)
    (moved : Moves config state (.proceed id) after) : AllCovered after := by
  cases moved with
  | register id msg here free =>
      exact allCovered_register held id msg
  | acknowledgeRegistration id msg write here sent =>
      exact held.setConn id _
        (fun out offered => (Channel.offered_send sent out).mpr (Or.inl offered))
        fun out _ => Or.inr trivial
  | snapshot id msg here free clean =>
      exact allCovered_replaying held registered id msg (by simp [here, registrationAt]) rfl
        (fun _ _ member => mem_drain _ member) rfl rfl
  | drain id msg here free stale =>
      refine held.mono (fun _ _ found => found) (fun _ _ member => mem_drain _ member)
        fun nodeId conn found task member covered => ?_
      have moved := covered.setConn id { state.conns id with
        stage := .reaping msg (state.taskQueue.drainExpired state.clock).1 }
        (fun offered => offered) fun _ _ => Or.inr trivial
      exact moved.congr rfl rfl
  | connReap id msg expired here =>
      exact allCovered_replaying held registered id msg (by simp [here, registrationAt]) rfl
        (fun _ _ member => member) rfl rfl
  | replay id msg out rest write here sent =>
      refine held.setConn id _
        (fun other offered => (Channel.offered_send sent other).mpr (Or.inl offered))
        fun other waiting => ?_
      rw [here] at waiting
      -- The head of the snapshot has been pushed, the rest is still to come.
      rcases List.mem_cons.mp waiting with head | later
      · exact Or.inl ((Channel.offered_send sent other).mpr (Or.inr head))
      · exact Or.inr later
  | ackTask id nodeId taskId command status reasons here free =>
      exact allCovered_ackTask held id nodeId taskId command status reasons here
  | disconnect id nodeId here free =>
      have moved := held.setConn id { state.conns id with stage := .unregistering nodeId }
        (fun _ offered => offered) (by simp [here, awaits])
      exact moved.mono (fun _ _ found => lookup_of_erase found) (fun _ _ member => member)
        fun _ _ _ _ _ covered => covered.congr rfl rfl
  | replayed id msg here
  | locate id msg here
  | route id msg position update limiter here routed
  | reject id msg position failure limiter here routed
  | upsert id update nodeId capability here writes
  | pass id update here silent other
  | correlate id nodeId taskId status reasons cleared here
  | emit id update updates here sent
  | unregister id nodeId here
  | announce id nodeId updates here sent =>
      refine AllCovered.congr (held.setConn id _ ?_ ?_) rfl rfl rfl rfl
      · exact fun _ offered => offered
      · simp [here, awaits]

theorem allCovered_step (config : BridgeConfig F) {state after : Bridge F}
    {action : Action F} (locked : DeliveriesLocked state) (registered : Registered state)
    (held : AllCovered state) (moved : Moves config state action after) :
    AllCovered after := by
  -- The call takes over what it has enqueued, and a registration what it snapshots;
  -- every other step only has to leave pushes, refusals and carriers alone.
  have whole := moved
  cases moved with
  | insert | skipInsert | queue | queueReap | callReap | absent | connect | alertAbsent
  | alertConnect | deliver =>
      exact allCovered_call config locked held whole
  | register | acknowledgeRegistration | snapshot | drain | connReap | replayed | replay
  | locate | route | reject | upsert | ackTask | pass | correlate | emit | disconnect
  | unregister | announce =>
      exact allCovered_conn config registered held whole
  | startTask id nodeId msg commandId here
  | startAlert id nodeId alertId status reasons here =>
      exact held.setCall id _ (by simp [here, carries])
  | hangUp id here =>
      refine AllCovered.congr (held.setConn id _ ?_ ?_) rfl rfl rfl rfl
      · exact fun _ offered => offered
      · simp [here, awaits]
  | receive id msg here =>
      refine held.setConn id _ (fun out offered => ?_) (by simp [here, awaits])
      unfold arrive
      split <;> exact offered
  | writerTakes id out write taken =>
      exact held.setConn id _
        (fun other offered => (Channel.offered_recv taken other).mpr offered)
        fun _ waiting => Or.inr waiting
  | writerWrote id
  | writerFailed id =>
      exact held.setConn id _ (fun _ offered => offered) fun _ waiting => Or.inr waiting
  | tick | consume | dropReceiver =>
      exact held.congr rfl rfl rfl rfl

theorem delivery_invariant (config : BridgeConfig F) {state : Bridge F}
    (reached : Reachable (machine config) state) :
    DeliveriesLocked state ∧ Registered state ∧ AllCovered state := by
  refine reached.invariant
    (fun state => DeliveriesLocked state ∧ Registered state ∧ AllCovered state) ?_ ?_
  · refine ⟨fun _ _ _ _ delivering => ?_, ⟨fun _ _ found => ?_, fun _ _ at_ => ?_⟩,
      fun _ _ found => ?_⟩
    · simp [machine, new] at delivering
    · simp [machine, new] at found
    · simp [machine, new, registrationAt] at at_
    · simp [machine, new] at found
  · rintro before action after _ ⟨locked, registered, covered⟩ taken
    have moved := moves_of_step config taken
    exact ⟨deliveriesLocked_step config locked moved, registered_step config registered moved,
      allCovered_step config locked registered covered moved⟩

omit [FloatOps F] in
theorem not_awaits {stage : Stage F} (finished : registrationAt stage = none)
    (out : Outgoing F) : ¬ awaits out stage := by
  cases stage <;> simp_all [registrationAt, awaits]

/-- Where a node's entry is a connection that has finished its replay, and no
`send_task` for the node is between its enqueue and its push, every pending task
of the node has been pushed to that connection, or refused as its writer is gone. -/
theorem pending_task_offered (config : BridgeConfig F) {state : Bridge F}
    (reached : Reachable (machine config) state) (nodeId : String) (conn : ConnId)
    (found : state.connections.lookup nodeId = some conn)
    (finished : registrationAt (state.conns conn).stage = none)
    (settled : ∀ id, ¬ betweenEnqueueAndPush nodeId (state.calls id)) :
    (state.conns conn).registered = some nodeId ∧
      ∀ task ∈ state.taskQueue.queueFor nodeId,
        task.msg ∈ (state.conns conn).write.pushed ∨
          (task.msg ∈ (state.conns conn).write.refused ∧
            (state.conns conn).write.closed = true) := by
  obtain ⟨_, registered, held⟩ := delivery_invariant config reached
  refine ⟨registered.entered nodeId conn found, fun task member => ?_⟩
  rcases held nodeId conn found task member with (pushed | refused) | waiting | ⟨id, carried⟩
  · exact Or.inl pushed
  · exact Or.inr ⟨refused, Channel.closed_of_refused _ refused⟩
  · exact absurd waiting (not_awaits finished task.msg)
  · exact absurd (carries_between carried) (settled id)

def registerThenTask : List (Action Float) :=
  .receive 0 (registrationOf "n") :: List.replicate 8 (.proceed 0) ++
    .sendTask 0 "n" (taskMessage "t") none :: List.replicate 4 (.advance 0)

theorem pending_task_offered_registerThenTask :
    ∃ state : Bridge Float, state.taskQueue.isEmptyFor "n" = false ∧
      (state.conns 0).registered = some "n" ∧
      ∀ task ∈ state.taskQueue.queueFor "n",
        task.msg ∈ (state.conns 0).write.pushed ∨
          (task.msg ∈ (state.conns 0).write.refused ∧
            (state.conns 0).write.closed = true) := by
  refine ⟨_, ?_, pending_task_offered plainConfig
    ⟨_, replay_reachable registerThenTask ?_⟩ "n" 0 ?_ ?_ fun id => ?_⟩
  · rfl
  · rfl
  · rfl
  · rfl
  · cases id with
    | zero => exact fun between => between
    | succ other => exact fun between => between

end PeatSapient.Bridge
