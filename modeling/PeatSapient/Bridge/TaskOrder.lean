import PeatSapient.Bridge.Delivery
import PeatSapient.Lib.Turns

/-! The order of the tasks on a connection. A task is enqueued under one lock and pushed
under another, and a registering connection replays a snapshot of the queue; the
condition below names the pushes that come in their turn. -/

namespace PeatSapient.Bridge

open HashMap Mpsc Execution Turns

variable {F : Type}

def enqueues (nodeId : String) : Bridge F × Action F → Option CallId
  | (state, .advance call) =>
      match state.calls call with
      | .queueing task => if task.nodeId = nodeId then some call else none
      | _ => none
  | _ => none

def enqueuedFor (nodeId : String) (trace : Trace (Bridge F) (Action F)) : List CallId :=
  (trace.filterMap (enqueues nodeId)).reverse

def taskOrigins (outs : List (Outgoing F)) : List CallId :=
  outs.filterMap Outgoing.origin

def queuedTasks (queue : TaskQueue (Outgoing F)) (nodeId : String) : List CallId :=
  taskOrigins (queue.pendingFor nodeId)

def toReplayOf (queued : List CallId) (conn : Connection F) : List CallId :=
  match conn.stage with
  | .registering _ | .acking _ | .snapshotting _ | .reaping _ _ => queued
  | .replaying _ pending => taskOrigins pending
  | _ => if conn.registered.isNone then queued else []

def toReplay (state : Bridge F) (nodeId : String) (conn : ConnId) : List CallId :=
  toReplayOf (queuedTasks state.taskQueue nodeId) (state.conns conn)

def replays (conn : ConnId) : Bridge F × Action F → Option CallId
  | (state, .proceed id) =>
      if id = conn then
        match (state.conns id).stage with
        | .replaying _ (out :: _) => out.origin
        | _ => none
      else none
  | _ => none

def replayedTo (conn : ConnId) (trace : Trace (Bridge F) (Action F)) : List CallId :=
  trace.filterMap (replays conn)

def waitingFor (state : Bridge F) (nodeId : String) (call : CallId) : Prop :=
  betweenEnqueueAndPush nodeId (state.calls call)

/-- A call pushes its task to the connection in its turn: what the replay is still to push
was enqueued later, what it has pushed was enqueued earlier, and no call that enqueued
earlier for the node is still between its enqueue and its push. -/
def PushesInTurn (nodeId : String) (conn : ConnId) (earlier : Trace (Bridge F) (Action F))
    (state : Bridge F) : Action F → Prop
  | .advance call =>
      match state.calls call with
      | .delivering _ target out =>
          target = conn → out.origin.isSome = true → (state.conns conn).write.closed = false →
            MayPush (enqueuedFor nodeId earlier) (toReplay state nodeId conn)
              (replayedTo conn earlier) (waitingFor state nodeId) call
      | _ => True
  | _ => True

def taskNumbers (state : Bridge F) (conn : ConnId) : List CallId :=
  taskOrigins (state.conns conn).write.pushed

def beyondQueue : ApiCall F → Bool
  | .idle | .inserting _ | .queueing _ => false
  | _ => true

structure CallsOwn (nodeId : String) (trace : Trace (Bridge F) (Action F))
    (state : Bridge F) : Prop where
  enqueued : ∀ id ∈ enqueuedFor nodeId trace, beyondQueue (state.calls id) = true
  origin : ∀ id target conn out, state.calls id = .delivering target conn out →
    out.origin.isSome = true → out.origin = some id

/-- The connection, as far as it can belong to the node, is in turn. -/
def ConnInTurn (nodeId : String) (conn : ConnId) (trace : Trace (Bridge F) (Action F))
    (state : Bridge F) : Prop :=
  (∀ other, (state.conns conn).registered = some other → other = nodeId) →
    InTurn (enqueuedFor nodeId trace) (taskNumbers state conn) (toReplay state nodeId conn)
      (replayedTo conn trace) (waitingFor state nodeId)

theorem enqueuedFor_cons (nodeId : String) (entry : Bridge F × Action F)
    (trace : Trace (Bridge F) (Action F)) :
    enqueuedFor nodeId (entry :: trace) =
      enqueuedFor nodeId trace ++ (enqueues nodeId entry).toList := by
  cases enqueued : enqueues nodeId entry <;> simp [enqueuedFor, enqueued]

theorem enqueuedFor_other {nodeId : String} {entry : Bridge F × Action F}
    (other : enqueues nodeId entry = none) (trace : Trace (Bridge F) (Action F)) :
    enqueuedFor nodeId (entry :: trace) = enqueuedFor nodeId trace := by
  simp [enqueuedFor_cons, other]

theorem replayedTo_grows (conn : ConnId) (entry : Bridge F × Action F)
    (trace : Trace (Bridge F) (Action F)) {call : CallId} (member : call ∈ replayedTo conn trace) :
    call ∈ replayedTo conn (entry :: trace) := by
  unfold replayedTo at *
  rw [List.filterMap_cons]
  split
  · exact member
  · exact List.mem_cons_of_mem _ member

theorem taskOrigins_append (left right : List (Outgoing F)) :
    taskOrigins (left ++ right) = taskOrigins left ++ taskOrigins right :=
  List.filterMap_append

theorem taskOrigins_send {before after : Channel (Outgoing F)} {out : Outgoing F}
    (sent : before.send out = some after) :
    (before.closed = true ∧ taskOrigins after.pushed = taskOrigins before.pushed) ∨
      (before.closed = false ∧
        taskOrigins after.pushed = taskOrigins before.pushed ++ out.origin.toList) := by
  rcases Channel.send_cases sent with ⟨closed, _, pushed, _⟩ | ⟨alive, _, _, pushed, _⟩
  · exact Or.inl ⟨closed, by rw [pushed]⟩
  · refine Or.inr ⟨alive, ?_⟩
    rw [pushed, taskOrigins_append]
    cases origin : out.origin <;> simp [taskOrigins, origin]

theorem queuedTasks_drain (queue : TaskQueue (Outgoing F)) (now : Nat) (nodeId : String) :
    (queuedTasks (queue.drainExpired now).2 nodeId).Sublist (queuedTasks queue nodeId) := by
  apply List.Sublist.filterMap
  apply List.Sublist.map
  rw [TaskQueue.queueFor_drain]
  exact List.filter_sublist

theorem queuedTasks_ack (queue : TaskQueue (Outgoing F)) (sender taskId nodeId : String) :
    (queuedTasks (queue.ack sender taskId) nodeId).Sublist (queuedTasks queue nodeId) := by
  apply List.Sublist.filterMap
  apply List.Sublist.map
  rw [TaskQueue.queueFor_ack]
  split
  · next same =>
      rw [same]
      exact List.filter_sublist
  · exact List.Sublist.refl _

theorem queuedTasks_enqueue (state : Bridge F) (id : CallId) (task : TaskCall F) :
    (queuedTasks (state.queued id task) task.nodeId).Sublist
      (queuedTasks state.taskQueue task.nodeId ++ [id]) := by
  have kept : ((state.taskQueue.drainExpired state.clock).2.keptFor task.nodeId).Sublist
      ((state.taskQueue.drainExpired state.clock).2.queueFor task.nodeId) := by
    unfold TaskQueue.keptFor
    split
    · exact List.tail_sublist _
    · exact List.Sublist.refl _
  have origins : (taskOrigins (((state.taskQueue.drainExpired state.clock).2.keptFor
      task.nodeId).map QueuedTask.msg)).Sublist (queuedTasks state.taskQueue task.nodeId) :=
    ((kept.map QueuedTask.msg).filterMap Outgoing.origin).trans
      (queuedTasks_drain state.taskQueue state.clock task.nodeId)
  unfold queuedTasks TaskQueue.pendingFor queued
  rw [TaskQueue.queueFor_enqueue, if_pos rfl, List.map_append, taskOrigins_append]
  exact origins.append (List.Sublist.refl _)

theorem queuedTasks_enqueue_other (state : Bridge F) (id : CallId) (task : TaskCall F)
    {nodeId : String} (other : task.nodeId ≠ nodeId) :
    (queuedTasks (state.queued id task) nodeId).Sublist (queuedTasks state.taskQueue nodeId) := by
  have same : queuedTasks (state.queued id task) nodeId =
      queuedTasks (state.taskQueue.drainExpired state.clock).2 nodeId := by
    unfold queuedTasks TaskQueue.pendingFor queued
    rw [TaskQueue.queueFor_enqueue, if_neg (Ne.symm other)]
  rw [same]
  exact queuedTasks_drain state.taskQueue state.clock nodeId

theorem sublist_of_unregistered {queued queued' : List CallId} (fewer : queued'.Sublist queued)
    (unregistered : Bool) :
    (if unregistered then queued' else []).Sublist (if unregistered then queued else []) := by
  cases unregistered
  · exact List.Sublist.refl _
  · exact fewer

theorem toReplayOf_fewer {queued queued' : List CallId} (fewer : queued'.Sublist queued)
    (conn : Connection F) : (toReplayOf queued' conn).Sublist (toReplayOf queued conn) := by
  unfold toReplayOf
  split
  case h_5 => exact List.Sublist.refl _
  case h_6 => exact sublist_of_unregistered fewer conn.registered.isNone
  all_goals exact fewer

/-- One task more in the queue is at most one more to replay. -/
theorem toReplayOf_one {queued queued' : List CallId} {call : CallId}
    (one : queued'.Sublist (queued ++ [call])) (conn : Connection F) :
    (toReplayOf queued' conn).Sublist (toReplayOf queued conn ++ [call]) := by
  unfold toReplayOf
  split
  case h_5 => exact List.sublist_append_left _ _
  case h_6 =>
    split
    · exact one
    · exact List.nil_sublist _
  all_goals exact one

/-- The step enqueues nothing for the node, leaves the tasks on the connection as they are
and adds nothing to what is to come. -/
theorem ConnInTurn.mono {nodeId : String} {conn : ConnId}
    {trace : Trace (Bridge F) (Action F)} {state after : Bridge F} {action : Action F}
    (held : ConnInTurn nodeId conn trace state) (other : enqueues nodeId (state, action) = none)
    (owner : ∀ id, (state.conns conn).registered = some id →
      (after.conns conn).registered = some id)
    (put : taskNumbers after conn = taskNumbers state conn)
    (coming : (∀ id, (after.conns conn).registered = some id → id = nodeId) →
      (toReplay after nodeId conn).Sublist (toReplay state nodeId conn))
    (left : ∀ call, waitingFor after nodeId call → waitingFor state nodeId call) :
    ConnInTurn nodeId conn ((state, action) :: trace) after := by
  intro mine
  have before := held fun id registered => mine id (owner id registered)
  rw [enqueuedFor_other other, put]
  exact before.mono (coming mine) (fun _ member => replayedTo_grows conn _ trace member) left

theorem ConnInTurn.setCall {nodeId : String} {conn : ConnId}
    {trace : Trace (Bridge F) (Action F)} {state after : Bridge F} {action : Action F}
    (held : ConnInTurn nodeId conn trace state) (other : enqueues nodeId (state, action) = none)
    (id : CallId) (call : ApiCall F) (calls : after.calls = Function.update state.calls id call)
    (conns : after.conns = state.conns) (queue : after.taskQueue = state.taskQueue)
    (left : betweenEnqueueAndPush nodeId call →
      betweenEnqueueAndPush nodeId (state.calls id)) :
    ConnInTurn nodeId conn ((state, action) :: trace) after := by
  refine held.mono other ?_ ?_ ?_ ?_
  · rw [conns]
    exact fun _ registered => registered
  · rw [taskNumbers, taskNumbers, conns]
  · intro _
    rw [toReplay, toReplay, conns, queue]
  · intro another waits
    unfold waitingFor at *
    rw [calls] at waits
    by_cases same : another = id
    · subst same
      rw [Function.update_self] at waits
      exact left waits
    · rwa [Function.update_of_ne same] at waits

theorem ConnInTurn.setConn {nodeId : String} {conn : ConnId}
    {trace : Trace (Bridge F) (Action F)} {state after : Bridge F} {action : Action F}
    (held : ConnInTurn nodeId conn trace state) (other : enqueues nodeId (state, action) = none)
    (id : ConnId) (changed : Connection F)
    (conns : after.conns = Function.update state.conns id changed)
    (calls : after.calls = state.calls) (queue : TaskQueue (Outgoing F))
    (queued : after.taskQueue = queue)
    (fewer : (queuedTasks queue nodeId).Sublist (queuedTasks state.taskQueue nodeId))
    (owner : ∀ target, (state.conns id).registered = some target →
      changed.registered = some target)
    (put : taskOrigins changed.write.pushed = taskOrigins (state.conns id).write.pushed)
    (coming : conn = id → (∀ target, changed.registered = some target → target = nodeId) →
      (toReplayOf (queuedTasks queue nodeId) changed).Sublist
        (toReplayOf (queuedTasks state.taskQueue nodeId) (state.conns id))) :
    ConnInTurn nodeId conn ((state, action) :: trace) after := by
  have left : ∀ call, waitingFor after nodeId call → waitingFor state nodeId call := by
    unfold waitingFor
    rw [calls]
    exact fun _ waits => waits
  by_cases same : conn = id
  · subst same
    have shape : after.conns conn = changed := by rw [conns, Function.update_self]
    refine held.mono other ?_ ?_ ?_ left
    · rw [shape]
      exact owner
    · rw [taskNumbers, taskNumbers, shape, put]
    · rw [toReplay, toReplay, shape, queued]
      exact coming rfl
  · have shape : after.conns conn = state.conns conn := by rw [conns, Function.update_of_ne same]
    refine held.mono other ?_ ?_ ?_ left
    · rw [shape]
      exact fun _ registered => registered
    · rw [taskNumbers, taskNumbers, shape]
    · intro _
      rw [toReplay, toReplay, shape, queued]
      exact toReplayOf_fewer fewer _

theorem ConnInTurn.stay {nodeId : String} {conn : ConnId}
    {trace : Trace (Bridge F) (Action F)} {state after : Bridge F} {action : Action F}
    (held : ConnInTurn nodeId conn trace state) (other : enqueues nodeId (state, action) = none)
    (id : ConnId) {changed : Connection F}
    (conns : after.conns = Function.update state.conns id changed)
    (calls : after.calls = state.calls) (queued : after.taskQueue = state.taskQueue)
    (owner : changed.registered = (state.conns id).registered)
    (put : taskOrigins changed.write.pushed = taskOrigins (state.conns id).write.pushed)
    (coming : (∀ target, changed.registered = some target → target = nodeId) →
      (toReplayOf (queuedTasks state.taskQueue nodeId) changed).Sublist
        (toReplayOf (queuedTasks state.taskQueue nodeId) (state.conns id))) :
    ConnInTurn nodeId conn ((state, action) :: trace) after := by
  apply held.setConn other id changed conns calls state.taskQueue queued
  · exact List.Sublist.refl _
  · intro target registered
    rw [owner]
    exact registered
  · exact put
  · exact fun _ => coming

theorem ConnInTurn.enqueue {nodeId : String} {conn : ConnId}
    {trace : Trace (Bridge F) (Action F)} {state after : Bridge F}
    (held : ConnInTurn nodeId conn trace state) (own : CallsOwn nodeId trace state)
    (id : CallId) (task : TaskCall F) (here : state.calls id = .queueing task)
    (call : ApiCall F) (calls : after.calls = Function.update state.calls id call)
    (conns : after.conns = state.conns) (queue : after.taskQueue = state.queued id task)
    (target : betweenEnqueueAndPush nodeId call → task.nodeId = nodeId) :
    ConnInTurn nodeId conn ((state, .advance id) :: trace) after := by
  have left : ∀ another, waitingFor after nodeId another →
      waitingFor state nodeId another ∨ (another = id ∧ task.nodeId = nodeId) := by
    intro another waits
    unfold waitingFor at *
    rw [calls] at waits
    by_cases same : another = id
    · subst same
      rw [Function.update_self] at waits
      exact Or.inr ⟨rfl, target waits⟩
    · rw [Function.update_of_ne same] at waits
      exact Or.inl waits
  by_cases mineToo : task.nodeId = nodeId
  · subst mineToo
    have latest : enqueues task.nodeId (state, .advance id) = some id := by
      simp [enqueues, here]
    have fresh : id ∉ enqueuedFor task.nodeId trace := by
      intro member
      have beyond := own.enqueued id member
      rw [here] at beyond
      cases beyond
    intro mine
    rw [conns] at mine
    have before := held mine
    rw [enqueuedFor_cons, latest, taskNumbers, toReplay, conns, queue]
    have grown := before.issue fresh
      (toReplayOf_one (queuedTasks_enqueue state id task) (state.conns conn))
      (fun another waits => (left another waits).imp (fun older => older) And.left)
    exact grown.mono (List.Sublist.refl _)
      (fun _ member => replayedTo_grows conn _ trace member) fun _ waits => waits
  · have other : enqueues nodeId (state, .advance id) = none := by
      simp [enqueues, here, mineToo]
    refine held.mono other ?_ ?_ ?_ ?_
    · rw [conns]
      exact fun _ registered => registered
    · rw [taskNumbers, taskNumbers, conns]
    · intro _
      rw [toReplay, toReplay, conns, queue]
      exact toReplayOf_fewer (queuedTasks_enqueue_other state id task mineToo) _
    · exact fun another waits => (left another waits).resolve_right fun both => mineToo both.2

/-- A call pushes what it carries: nothing of the node's tasks changes, or its own task is
put in its turn. -/
theorem ConnInTurn.deliver {nodeId : String} {conn : ConnId}
    {trace : Trace (Bridge F) (Action F)} {state after : Bridge F}
    (held : ConnInTurn nodeId conn trace state) (own : CallsOwn nodeId trace state)
    (locked : DeliveriesLocked state) (registered : Registered state)
    (id : CallId) (target : String) (delivered : ConnId) (out : Outgoing F)
    (write : Channel (Outgoing F)) (here : state.calls id = .delivering target delivered out)
    (sent : (state.conns delivered).write.send out = some write)
    (calls : after.calls = Function.update state.calls id (.returned (.ok ())))
    (conns : after.conns = Function.update state.conns delivered
      { state.conns delivered with write := write })
    (queue : after.taskQueue = state.taskQueue)
    (turn : PushesInTurn nodeId conn trace state (.advance id)) :
    ConnInTurn nodeId conn ((state, .advance id) :: trace) after := by
  have other : enqueues nodeId (state, .advance id) = none := by simp [enqueues, here]
  have left : ∀ another, waitingFor after nodeId another →
      waitingFor state nodeId another ∧ another ≠ id := by
    intro another waits
    unfold waitingFor at *
    rw [calls] at waits
    by_cases same : another = id
    · subst same
      rw [Function.update_self] at waits
      cases waits
    · rw [Function.update_of_ne same] at waits
      exact ⟨waits, same⟩
  have owner : (after.conns conn).registered = (state.conns conn).registered := by
    rw [conns]
    by_cases same : conn = delivered
    · subst same
      rw [Function.update_self]
    · rw [Function.update_of_ne same]
  have coming : toReplay after nodeId conn = toReplay state nodeId conn := by
    rw [toReplay, toReplay, conns, queue]
    by_cases same : conn = delivered
    · subst same
      rw [Function.update_self]
      rfl
    · rw [Function.update_of_ne same]
  have unchanged : taskNumbers after conn = taskNumbers state conn →
      ConnInTurn nodeId conn ((state, .advance id) :: trace) after := by
    intro still
    refine held.mono other ?_ still ?_ fun another waits => (left another waits).1
    · rw [owner]
      exact fun _ registered => registered
    · rw [coming]
      exact fun _ => List.Sublist.refl _
  by_cases same : conn = delivered
  · subst same
    have put : taskNumbers after conn = taskOrigins write.pushed := by
      rw [taskNumbers, conns, Function.update_self]
    rcases taskOrigins_send sent with ⟨closed, still⟩ | ⟨alive, more⟩
    · exact unchanged (put.trans still)
    · cases origin : out.origin with
      | none =>
          rw [origin, Option.toList_none, List.append_nil] at more
          exact unchanged (put.trans more)
      | some call =>
          have task : out.origin.isSome = true := by
            rw [origin]
            rfl
          rw [own.origin id target conn out here task] at more
          intro mine
          rw [owner] at mine
          -- The connection is the node's, so the call is one for the node.
          have entered := registered.entered target conn (locked id target conn out here).2
          have forNode := mine target entered
          subst forNode
          have waits : waitingFor state target id := by
            simp [waitingFor, here, betweenEnqueueAndPush, task]
          simp only [PushesInTurn, here] at turn
          rw [enqueuedFor_other other, put, more, coming]
          have pushed := (held mine).push waits (turn trivial task alive) left
          exact pushed.mono (List.Sublist.refl _)
            (fun _ member => replayedTo_grows conn _ trace member) fun _ waits => waits
  · apply unchanged
    rw [taskNumbers, taskNumbers, conns, Function.update_of_ne same]

theorem ConnInTurn.replay {nodeId : String} {conn : ConnId}
    {trace : Trace (Bridge F) (Action F)} {state after : Bridge F}
    (held : ConnInTurn nodeId conn trace state) (msg : SapientMessage F) (out : Outgoing F)
    (rest : List (Outgoing F)) (write : Channel (Outgoing F))
    (here : (state.conns conn).stage = .replaying msg (out :: rest))
    (sent : (state.conns conn).write.send out = some write)
    (calls : after.calls = state.calls)
    (conns : after.conns = Function.update state.conns conn
      { state.conns conn with write := write, stage := .replaying msg rest }) :
    ConnInTurn nodeId conn ((state, .proceed conn) :: trace) after := by
  have other : enqueues nodeId (state, .proceed conn) = none := rfl
  have coming : toReplay state nodeId conn = out.origin.toList ++ taskOrigins rest := by
    rw [toReplay, toReplayOf, here]
    cases origin : out.origin <;> simp [taskOrigins, origin]
  have coming' : toReplay after nodeId conn = taskOrigins rest := by
    rw [toReplay, conns, Function.update_self]
    rfl
  have put : taskNumbers after conn = taskOrigins write.pushed := by
    rw [taskNumbers, conns, Function.update_self]
  have owner : (after.conns conn).registered = (state.conns conn).registered := by
    rw [conns, Function.update_self]
  have left : ∀ call, waitingFor after nodeId call → waitingFor state nodeId call := by
    unfold waitingFor
    rw [calls]
    exact fun _ waits => waits
  have unchanged : taskOrigins write.pushed = taskNumbers state conn →
      ConnInTurn nodeId conn ((state, .proceed conn) :: trace) after := by
    intro still
    refine held.mono other ?_ (put.trans still) ?_ left
    · rw [owner]
      exact fun _ registered => registered
    · rw [coming, coming']
      exact fun _ => List.sublist_append_right _ _
  rcases taskOrigins_send sent with ⟨closed, still⟩ | ⟨alive, more⟩
  · exact unchanged still
  · cases origin : out.origin with
    | none =>
        rw [origin, Option.toList_none, List.append_nil] at more
        exact unchanged more
    | some call =>
        intro mine
        rw [owner] at mine
        have before := held mine
        rw [coming, origin] at before
        have replayed : replayedTo conn ((state, .proceed conn) :: trace) =
            call :: replayedTo conn trace := by
          simp [replayedTo, replays, here, origin]
        rw [enqueuedFor_other other, put, more, coming', origin, replayed]
        exact before.replay.mono (List.Sublist.refl _) (fun _ member => member) left

theorem CallsOwn.step {nodeId : String} {trace : Trace (Bridge F) (Action F)}
    {state after : Bridge F} {action : Action F} (held : CallsOwn nodeId trace state)
    (id : CallId) (call : ApiCall F) (calls : after.calls = Function.update state.calls id call)
    (latest : ∀ other, enqueues nodeId (state, action) = some other → other = id)
    (beyond : beyondQueue (state.calls id) = true ∨
      enqueues nodeId (state, action) = some id → beyondQueue call = true)
    (own : ∀ target conn out, call = .delivering target conn out →
      out.origin.isSome = true → out.origin = some id) :
    CallsOwn nodeId ((state, action) :: trace) after := by
  constructor
  · intro another member
    rw [enqueuedFor_cons] at member
    by_cases same : another = id
    · subst same
      rw [calls, Function.update_self]
      apply beyond
      rcases List.mem_append.mp member with older | now
      · exact Or.inl (held.enqueued another older)
      · exact Or.inr (Option.mem_toList.mp now)
    · rw [calls, Function.update_of_ne same]
      rcases List.mem_append.mp member with older | now
      · exact held.enqueued another older
      · exact absurd (latest another (Option.mem_toList.mp now)) same
  · intro another target conn out delivering
    by_cases same : another = id
    · subst same
      rw [calls, Function.update_self] at delivering
      exact own target conn out delivering
    · rw [calls, Function.update_of_ne same] at delivering
      exact held.origin another target conn out delivering

theorem CallsOwn.congr {nodeId : String} {trace : Trace (Bridge F) (Action F)}
    {state after : Bridge F} {action : Action F} (held : CallsOwn nodeId trace state)
    (calls : after.calls = state.calls) (other : enqueues nodeId (state, action) = none) :
    CallsOwn nodeId ((state, action) :: trace) after := by
  constructor
  · rw [enqueuedFor_other other, calls]
    exact held.enqueued
  · rw [calls]
    exact held.origin

variable [FloatOps F]

theorem callsOwn_step (config : BridgeConfig F) {nodeId : String}
    {trace : Trace (Bridge F) (Action F)} {state after : Bridge F} {action : Action F}
    (held : CallsOwn nodeId trace state) (moved : Moves config state action after) :
    CallsOwn nodeId ((state, action) :: trace) after := by
  cases moved with
  | startTask id target msg commandId here =>
      refine held.step id _ rfl ?_ ?_ ?_
      · simp [enqueues]
      · simp [enqueues, here, beyondQueue]
      · rcases startSendTask_cases target msg commandId with ⟨result, shape⟩ | ⟨task, shape⟩ <;>
          simp [shape]
  | startAlert id target alertId status reasons here =>
      refine held.step id _ rfl ?_ ?_ ?_
      · simp [enqueues]
      · simp [enqueues, here, beyondQueue]
      · simp
  | queue id task here free clean
  | queueReap id task here free stale =>
      refine held.step id _ rfl ?_ (fun _ => rfl) ?_
      · intro other latest
        simp only [enqueues, here] at latest
        split at latest
        · exact (Option.some.inj latest).symm
        · cases latest
      · simp
  | connect id task conn here free found =>
      refine held.step id _ rfl ?_ ?_ ?_
      · simp [enqueues, here]
      · simp [beyondQueue]
      · intro target other out shape _
        cases shape
        rfl
  | alertConnect id target msg conn here free found =>
      refine held.step id _ rfl ?_ ?_ ?_
      · simp [enqueues, here]
      · simp [beyondQueue]
      · intro target other out shape task
        cases shape
        cases task
  | insert id task command here given
  | skipInsert id task here missing =>
      refine held.step id _ rfl ?_ ?_ ?_
      · simp [enqueues, here]
      · simp [enqueues, here, beyondQueue]
      · simp
  | callReap id task removed here
  | absent id task here free missing
  | alertAbsent id target msg here free missing
  | deliver id target conn out write here sent =>
      refine held.step id _ rfl ?_ (fun _ => rfl) ?_
      · simp [enqueues, here]
      · simp
  | _ => exact held.congr rfl rfl

theorem connInTurn_call (config : BridgeConfig F) {nodeId : String} {conn : ConnId}
    {trace : Trace (Bridge F) (Action F)} {state after : Bridge F} {id : CallId}
    (held : ConnInTurn nodeId conn trace state) (own : CallsOwn nodeId trace state)
    (locked : DeliveriesLocked state) (registered : Registered state)
    (turn : PushesInTurn nodeId conn trace state (.advance id))
    (moved : Moves config state (.advance id) after) :
    ConnInTurn nodeId conn ((state, .advance id) :: trace) after := by
  cases moved with
  | queue id task here free clean =>
      exact held.enqueue own id task here (.connecting task) rfl rfl rfl fun between => between
  | queueReap id task here free stale =>
      exact held.enqueue own id task here (.reaping task (state.reaped id task)) rfl rfl rfl
        fun between => between
  | insert id task command here given
  | skipInsert id task here missing
  | callReap id task removed here
  | absent id task here free missing
  | connect id task target here free found
  | alertAbsent id target msg here free missing
  | alertConnect id target msg other here free found =>
      refine held.setCall ?_ id _ rfl rfl rfl ?_
      · simp [enqueues, here]
      · simp [here, betweenEnqueueAndPush]
  | deliver id target delivered out write here sent =>
      exact held.deliver own locked registered id target delivered out write here sent rfl rfl
        rfl turn

theorem connInTurn_conn (config : BridgeConfig F) {nodeId : String} {conn : ConnId}
    {trace : Trace (Bridge F) (Action F)} {state after : Bridge F} {id : ConnId}
    (held : ConnInTurn nodeId conn trace state) (registered : Registered state)
    (moved : Moves config state (.proceed id) after) :
    ConnInTurn nodeId conn ((state, .proceed id) :: trace) after := by
  have sender : ∀ id msg, registrationAt (state.conns id).stage = some msg →
      (∀ target, (state.conns id).registered = some target → target = nodeId) →
      msg.sender = nodeId :=
    fun id msg at_ mine => mine _ (registered.handling id msg at_)
  cases moved with
  | replay id msg out rest write here sent =>
      by_cases same : id = conn
      · subst same
        exact held.replay msg out rest write here sent rfl rfl
      · refine held.mono (by rfl) ?_ ?_ ?_ fun _ waits => waits
        · simp [setConn, Ne.symm same]
        · simp [taskNumbers, setConn, Ne.symm same]
        · intro _
          simp [toReplay, setConn, Ne.symm same]
  | acknowledgeRegistration id msg write here sent =>
      refine held.stay rfl id rfl rfl rfl rfl ?_ ?_
      · rcases taskOrigins_send sent with ⟨_, still⟩ | ⟨_, more⟩
        · exact still
        · rw [more]
          exact List.append_nil _
      · intro _
        simp [toReplayOf, here]
  | snapshot id msg here free clean =>
      have fewer := queuedTasks_drain state.taskQueue state.clock nodeId
      refine held.setConn rfl id _ rfl rfl (state.taskQueue.drainExpired state.clock).2 rfl fewer
        (fun _ own => own) rfl ?_
      intro _ mine
      rw [sender id msg (by rw [here]; rfl) mine]
      simpa only [toReplayOf, here, queuedTasks] using fewer
  | drain id msg here free stale =>
      have fewer := queuedTasks_drain state.taskQueue state.clock nodeId
      refine held.setConn rfl id _ rfl rfl (state.taskQueue.drainExpired state.clock).2 rfl fewer
        (fun _ own => own) rfl ?_
      intro _ _
      simpa only [toReplayOf, here] using fewer
  | connReap id msg expired here =>
      refine held.stay rfl id rfl rfl rfl rfl rfl ?_
      intro mine
      rw [sender id msg (by rw [here]; rfl) mine]
      simp [toReplayOf, here, queuedTasks]
  | replayed id msg here =>
      have owner := registered.handling id msg (by rw [here]; rfl)
      refine held.stay rfl id rfl rfl rfl rfl rfl ?_
      intro _
      simp [toReplayOf, owner]
  | ackTask id sender acked given status reasons here free =>
      have fewer := queuedTasks_ack state.taskQueue sender acked nodeId
      refine held.setConn rfl id _ rfl rfl (state.taskQueue.ack sender acked) rfl fewer
        (fun _ own => own) rfl ?_
      intro _ _
      simpa only [toReplayOf, here] using sublist_of_unregistered fewer _
  | register id msg here free
  | locate id msg here
  | route id msg position update limiter here routed
  | reject id msg position failure limiter here routed
  | upsert id update target capability here writes
  | pass id update here silent other
  | correlate id sender acked status reasons cleared here
  | emit id update updates here sent
  | disconnect id target here free
  | unregister id target here
  | announce id target updates here sent =>
      refine held.stay rfl id rfl rfl rfl rfl rfl ?_
      intro _
      simp [toReplayOf, here]

theorem connInTurn_step (config : BridgeConfig F) {nodeId : String} {conn : ConnId}
    {trace : Trace (Bridge F) (Action F)} {state after : Bridge F} {action : Action F}
    (held : ConnInTurn nodeId conn trace state) (own : CallsOwn nodeId trace state)
    (locked : DeliveriesLocked state) (registered : Registered state)
    (turn : PushesInTurn nodeId conn trace state action)
    (moved : Moves config state action after) :
    ConnInTurn nodeId conn ((state, action) :: trace) after := by
  have whole := moved
  cases moved with
  | insert | skipInsert | queue | queueReap | callReap | absent | connect | alertAbsent
  | alertConnect | deliver =>
      exact connInTurn_call config held own locked registered turn whole
  | register | acknowledgeRegistration | snapshot | drain | connReap | replayed | replay
  | locate | route | reject | upsert | ackTask | pass | correlate | emit | disconnect
  | unregister | announce =>
      exact connInTurn_conn config held registered whole
  | tick | consume | dropReceiver =>
      exact held.mono rfl (fun _ own => own) rfl (fun _ => List.Sublist.refl _) fun _ waits => waits
  | startTask id target msg commandId here =>
      refine held.setCall rfl id _ rfl rfl rfl ?_
      rcases startSendTask_cases target msg commandId with ⟨result, shape⟩ | ⟨task, shape⟩ <;>
        simp [shape, betweenEnqueueAndPush]
  | startAlert id target alertId status reasons here =>
      exact held.setCall rfl id _ rfl rfl rfl (by simp [betweenEnqueueAndPush])
  | receive id msg here =>
      refine held.setConn rfl id (state.arrive id msg) rfl rfl state.taskQueue rfl
        (List.Sublist.refl _) ?_ ?_ ?_
      · intro target owner
        simp [arrive, owner]
      · unfold arrive
        split <;> rfl
      · intro _ _
        cases owner : (state.conns id).registered with
        | some target => simp [arrive, owner, toReplayOf]
        | none =>
            cases first : isRegistration msg <;> simp [arrive, owner, first, toReplayOf, here]
  | hangUp id here =>
      refine held.stay rfl id rfl rfl rfl rfl rfl ?_
      intro _
      cases owner : (state.conns id).registered <;> simp [hungUp, owner, toReplayOf, here]
  | writerTakes id out write taken =>
      obtain ⟨_, _, _, pushed, _⟩ := Channel.recv_cases taken
      refine held.stay rfl id rfl rfl rfl rfl ?_ ?_
      · rw [pushed]
      · exact fun _ => List.Sublist.refl _
  | writerWrote id out busy
  | writerFailed id out busy =>
      exact held.stay rfl id rfl rfl rfl rfl rfl fun _ => List.Sublist.refl _

/-- In a run whose pushes of the node's tasks to its connection all come in their turn, the
tasks put into the connection's write channel are in the order in which they were enqueued,
and none is there twice. -/
theorem tasks_in_order (config : BridgeConfig F) (nodeId : String) (conn : ConnId)
    {trace : Trace (Bridge F) (Action F)} {state : Bridge F}
    (run : Run (machine config) trace state)
    (turns : Meets (PushesInTurn nodeId conn) trace)
    (owner : (state.conns conn).registered = some nodeId) :
    (taskNumbers state conn).Pairwise (Before (enqueuedFor nodeId trace)) ∧
      (taskNumbers state conn).Nodup := by
  have held : CallsOwn nodeId trace state ∧ ConnInTurn nodeId conn trace state := by
    refine run.invariant_of_meets _ (fun trace state =>
      CallsOwn nodeId trace state ∧ ConnInTurn nodeId conn trace state) ?_ ?_ turns
    · refine ⟨⟨fun id member => ?_, fun id target other out delivering => ?_⟩, fun _ => ?_⟩
      · cases member
      · cases delivering
      · exact InTurn.start fun call waits => waits
    · rintro trace before action after earlier ⟨own, inTurn⟩ turn taken
      have moved := moves_of_step config taken
      obtain ⟨locked, registered, _⟩ := delivery_invariant config ⟨trace, earlier⟩
      exact ⟨callsOwn_step config own moved,
        connInTurn_step config inTurn own locked registered turn moved⟩
  have ordered := (held.2 fun other registered => by
    rw [owner] at registered
    exact (Option.some.inj registered).symm).putOrdered
  exact ⟨ordered, nodup_of_ordered ordered⟩

theorem tasks_in_order_registerThenTask :
    ∃ (trace : Trace (Bridge Float) (Action Float)) (state : Bridge Float),
      taskNumbers state 0 = [0] ∧
        (taskNumbers state 0).Pairwise (Before (enqueuedFor "n" trace)) ∧
        (taskNumbers state 0).Nodup := by
  refine ⟨_, _, ?_, tasks_in_order plainConfig "n" 0
    (replay_reachable registerThenTask rfl) ?_ rfl⟩
  · rfl
  · refine ⟨fun _ _ _ => ⟨?_, ?_, ?_⟩, trivial, trivial, trivial, trivial, trivial, trivial,
      trivial, trivial, trivial, trivial, trivial, trivial, trivial, trivial⟩
    · decide
    · decide
    · intro other waits different
      cases other with
      | zero => exact absurd rfl different
      | succ later => exact waits.elim

def replayedAndPushed : List (Action Float) :=
  .sendTask 0 "n" (taskMessage "t") none :: .advance 0 :: .advance 0 ::
    .receive 0 (registrationOf "n") :: List.replicate 9 (.proceed 0) ++
    List.replicate 2 (.advance 0)

theorem task_pushed_twice :
    ¬ ∀ (nodeId : String) (conn : ConnId) (trace : Trace (Bridge Float) (Action Float))
      (state : Bridge Float), Run (machine plainConfig) trace state →
      (state.conns conn).registered = some nodeId →
      (taskNumbers state conn).Pairwise (Before (enqueuedFor nodeId trace)) ∧
        (taskNumbers state conn).Nodup := by
  intro ordered
  have twice := (ordered "n" 0 _ _ (replay_reachable replayedAndPushed rfl) rfl).2
  revert twice
  decide

end PeatSapient.Bridge
