import PeatSapient.Bridge.TaskOrder

/-! How often a task is pushed. The replay of a registration and the call that enqueued the
task do not know of each other, so both may push it to the same connection; nothing else
does. -/

namespace PeatSapient.Bridge

open HashMap Mpsc Execution

variable {F : Type}

def triedTasks (conn : Connection F) : List CallId := taskOrigins conn.write.attempts

/-- The pushes of its task that are still open to a call. -/
def callMay (id : CallId) : ApiCall F → Nat
  | .alerting _ _ | .returned _ => 0
  | .delivering _ _ out => if out.origin = some id then 1 else 0
  | _ => 1

def replayMay (id : CallId) (conn : Connection F) : Nat :=
  match conn.stage with
  | .registering _ | .acking _ | .snapshotting _ | .reaping _ _ => 1
  | .replaying _ pending => (taskOrigins pending).count id
  | _ => if conn.registered.isNone then 1 else 0

/-- A call enqueues one task, and pushes no task but its own. -/
structure EnqueuedOnce (state : Bridge F) : Prop where
  origin : ∀ id target conn out, state.calls id = .delivering target conn out →
    out.origin.isSome = true → out.origin = some id
  nodup : ∀ nodeId, (queuedTasks state.taskQueue nodeId).Nodup
  beyond : ∀ nodeId, ∀ id ∈ queuedTasks state.taskQueue nodeId,
    beyondQueue (state.calls id) = true

def hands (conn : ConnId) : Bridge F × Action F → Option CallId
  | (state, .advance id) =>
      match state.calls id with
      | .delivering _ target out => if target = conn then out.origin else none
      | _ => none
  | _ => none

def handedTo (conn : ConnId) (trace : Trace (Bridge F) (Action F)) : List CallId :=
  trace.filterMap (hands conn)

def ReplaysOnce (trace : Trace (Bridge F) (Action F)) (state : Bridge F) : Prop :=
  ∀ conn id, (replayedTo conn trace).count id + replayMay id (state.conns conn) ≤ 1

def HandsOnce (trace : Trace (Bridge F) (Action F)) (state : Bridge F) : Prop :=
  ∀ conn id, (handedTo conn trace).count id + callMay id (state.calls id) ≤ 1

theorem EnqueuedOnce.congr {before after : Bridge F} (held : EnqueuedOnce before)
    (calls : after.calls = before.calls)
    (queue : ∀ nodeId, (queuedTasks after.taskQueue nodeId).Sublist
      (queuedTasks before.taskQueue nodeId)) : EnqueuedOnce after where
  origin := by
    rw [calls]
    exact held.origin
  nodup nodeId := (held.nodup nodeId).sublist (queue nodeId)
  beyond := by
    rw [calls]
    exact fun nodeId id member => held.beyond nodeId id ((queue nodeId).subset member)

theorem EnqueuedOnce.setCall {state : Bridge F} (held : EnqueuedOnce state) (id : CallId)
    (call : ApiCall F)
    (own : ∀ target conn out, call = .delivering target conn out → out.origin.isSome = true →
      out.origin = some id)
    (stays : beyondQueue (state.calls id) = true → beyondQueue call = true) :
    EnqueuedOnce (state.setCall id call) where
  origin := by
    intro other target conn out delivering
    by_cases same : other = id
    · subst same
      exact own target conn out (by simpa [Bridge.setCall] using delivering)
    · exact held.origin other target conn out (by simpa [Bridge.setCall, same] using delivering)
  nodup := held.nodup
  beyond := by
    intro nodeId other member
    have past := held.beyond nodeId other member
    by_cases same : other = id
    · subst same
      simpa [Bridge.setCall] using stays past
    · simpa [Bridge.setCall, same] using past

theorem EnqueuedOnce.enqueue {state after : Bridge F} (held : EnqueuedOnce state) {id : CallId}
    {task : TaskCall F} (here : state.calls id = .queueing task) (call : ApiCall F)
    (own : ∀ target conn out, call ≠ .delivering target conn out)
    (past : beyondQueue call = true) (queue : after.taskQueue = state.queued id task)
    (calls : after.calls = Function.update state.calls id call) : EnqueuedOnce after := by
  have absent : ∀ nodeId, id ∉ queuedTasks state.taskQueue nodeId := by
    intro nodeId member
    have beyond := held.beyond nodeId id member
    rw [here] at beyond
    cases beyond
  have grows : ∀ nodeId, (queuedTasks after.taskQueue nodeId).Sublist
      (queuedTasks state.taskQueue nodeId ++ [id]) := by
    intro nodeId
    rw [queue]
    by_cases same : task.nodeId = nodeId
    · subst same
      exact queuedTasks_enqueue state id task
    · exact (queuedTasks_enqueue_other state id task same).trans (List.sublist_append_left _ _)
  constructor
  · intro other target conn out delivering
    rw [calls] at delivering
    by_cases same : other = id
    · subst same
      rw [Function.update_self] at delivering
      exact absurd delivering (own target conn out)
    · rw [Function.update_of_ne same] at delivering
      exact held.origin other target conn out delivering
  · intro nodeId
    apply List.Nodup.sublist (grows nodeId)
    rw [List.nodup_append]
    refine ⟨held.nodup nodeId, List.nodup_singleton id, ?_⟩
    intro older member latest own
    rw [List.mem_singleton.mp own]
    rintro rfl
    exact absent nodeId member
  · intro nodeId other member
    rw [calls]
    by_cases same : other = id
    · subst same
      rw [Function.update_self]
      exact past
    · rw [Function.update_of_ne same]
      rcases List.mem_append.mp ((grows nodeId).subset member) with older | latest
      · exact held.beyond nodeId other older
      · exact absurd (List.mem_singleton.mp latest) same

theorem count_replayedTo (conn : ConnId) (id : CallId) (entry : Bridge F × Action F)
    (trace : Trace (Bridge F) (Action F)) :
    (replayedTo conn (entry :: trace)).count id =
      (replays conn entry).toList.count id + (replayedTo conn trace).count id := by
  cases pushed : replays conn entry <;> simp [replayedTo, pushed, List.count_cons, Nat.add_comm]

theorem count_handedTo (conn : ConnId) (id : CallId) (entry : Bridge F × Action F)
    (trace : Trace (Bridge F) (Action F)) :
    (handedTo conn (entry :: trace)).count id =
      (hands conn entry).toList.count id + (handedTo conn trace).count id := by
  cases pushed : hands conn entry <;> simp [handedTo, pushed, List.count_cons, Nat.add_comm]

theorem ReplaysOnce.congr {trace : Trace (Bridge F) (Action F)} {state after : Bridge F}
    {action : Action F} (held : ReplaysOnce trace state) (conns : after.conns = state.conns)
    (silent : ∀ conn, replays conn (state, action) = none) :
    ReplaysOnce ((state, action) :: trace) after := by
  intro conn id
  rw [count_replayedTo, silent, conns]
  simpa using held conn id

theorem ReplaysOnce.setConn {trace : Trace (Bridge F) (Action F)} {state after : Bridge F}
    {action : Action F} (held : ReplaysOnce trace state) (id : ConnId) (changed : Connection F)
    (conns : after.conns = Function.update state.conns id changed)
    (others : ∀ conn, conn ≠ id → replays conn (state, action) = none)
    (less : ∀ call, (replays id (state, action)).toList.count call + replayMay call changed ≤
      replayMay call (state.conns id)) : ReplaysOnce ((state, action) :: trace) after := by
  intro conn call
  have within := held conn call
  rw [count_replayedTo, conns]
  by_cases same : conn = id
  · subst same
    have fewer := less call
    rw [Function.update_self]
    omega
  · rw [Function.update_of_ne same, others conn same]
    simpa using within

theorem HandsOnce.setCall {trace : Trace (Bridge F) (Action F)} {state after : Bridge F}
    {action : Action F} (held : HandsOnce trace state) (id : CallId) (call : ApiCall F)
    (calls : after.calls = Function.update state.calls id call)
    (own : ∀ conn other, hands conn (state, action) = some other → other = id)
    (less : ∀ conn, (hands conn (state, action)).toList.count id + callMay id call ≤
      callMay id (state.calls id)) : HandsOnce ((state, action) :: trace) after := by
  intro conn other
  have within := held conn other
  rw [count_handedTo, calls]
  by_cases same : other = id
  · subst same
    have fewer := less conn
    rw [Function.update_self]
    omega
  · have foreign : (hands conn (state, action)).toList.count other = 0 := by
      cases pushed : hands conn (state, action) with
      | none => rfl
      | some latest =>
          rw [own conn latest pushed]
          simp [Ne.symm same]
    rw [Function.update_of_ne same, foreign]
    omega

theorem triedTasks_send {conn : Connection F} {write : Channel (Outgoing F)}
    {out : Outgoing F} (sent : conn.write.send out = some write) :
    taskOrigins write.attempts = triedTasks conn ++ out.origin.toList := by
  rw [Channel.attempts_send sent, taskOrigins_append, triedTasks]
  cases origin : out.origin <;> simp [taskOrigins, origin]

variable [FloatOps F]

theorem enqueuedOnce_step (config : BridgeConfig F) {state after : Bridge F}
    {action : Action F} (held : EnqueuedOnce state) (moved : Moves config state action after) :
    EnqueuedOnce after := by
  have same : ∀ nodeId, (queuedTasks state.taskQueue nodeId).Sublist
      (queuedTasks state.taskQueue nodeId) := fun _ => List.Sublist.refl _
  cases moved with
  | startTask id nodeId msg commandId here =>
      rcases startSendTask_cases nodeId msg commandId with ⟨result, shape⟩ | ⟨task, shape⟩ <;>
        exact held.setCall id _ (by simp [shape]) (by simp [here, beyondQueue])
  | startAlert id | absent id | alertAbsent id =>
      exact held.setCall id _ (by simp) fun _ => rfl
  | skipInsert id task here => exact held.setCall id _ (by simp) (by simp [here, beyondQueue])
  | insert id task command here =>
      apply EnqueuedOnce.setCall
      · exact held.congr rfl same
      · simp
      · simp [here, beyondQueue]
  | queue id task here => exact held.enqueue here _ (by simp) rfl rfl rfl
  | queueReap id task here => exact held.enqueue here _ (by simp) rfl rfl rfl
  | callReap id =>
      apply EnqueuedOnce.setCall
      · exact held.congr rfl same
      · simp
      · exact fun _ => rfl
  | connect id task conn here =>
      apply EnqueuedOnce.setCall
      · exact held.congr rfl same
      · rintro target conn out delivering _
        cases delivering
        rfl
      · exact fun _ => rfl
  | alertConnect id nodeId msg conn here =>
      apply EnqueuedOnce.setCall
      · exact held.congr rfl same
      · rintro target conn out delivering own
        cases delivering
        cases own
      · exact fun _ => rfl
  | deliver id =>
      apply EnqueuedOnce.setCall
      · exact held.congr rfl same
      · simp
      · exact fun _ => rfl
  | snapshot id | drain id =>
      exact held.congr rfl fun nodeId => queuedTasks_drain state.taskQueue state.clock nodeId
  | ackTask id nodeId taskId =>
      exact held.congr rfl fun other => queuedTasks_ack state.taskQueue nodeId taskId other
  | _ => exact held.congr rfl same

/-- A replay starts with one copy at most of each task. -/
theorem replaysOnce_step (config : BridgeConfig F) {trace : Trace (Bridge F) (Action F)}
    {state after : Bridge F} {action : Action F} (registered : Registered state)
    (once : EnqueuedOnce state) (held : ReplaysOnce trace state)
    (moved : Moves config state action after) : ReplaysOnce ((state, action) :: trace) after := by
  have snapshots : ∀ (queue : TaskQueue (Outgoing F)) (nodeId : String) (call : CallId),
      (queuedTasks queue nodeId).Sublist (queuedTasks state.taskQueue nodeId) →
        (taskOrigins (queue.pendingFor nodeId)).count call ≤ 1 := by
    intro queue nodeId call fewer
    exact List.nodup_iff_count_le_one.mp ((once.nodup nodeId).sublist fewer) call
  cases moved with
  | snapshot id msg here =>
      refine held.setConn id _ rfl (fun conn apart => if_neg (Ne.symm apart)) fun call => ?_
      have fewer := snapshots _ msg.sender call
        (queuedTasks_drain state.taskQueue state.clock msg.sender)
      simpa [replays, here, replayMay] using fewer
  | connReap id msg expired here =>
      refine held.setConn id _ rfl (fun conn apart => if_neg (Ne.symm apart)) fun call => ?_
      have fewer := snapshots state.taskQueue msg.sender call (List.Sublist.refl _)
      simpa [replays, here, replayMay] using fewer
  | replay id msg out rest write here sent =>
      refine held.setConn id _ rfl (fun conn apart => if_neg (Ne.symm apart)) fun call => ?_
      have next : taskOrigins (out :: rest) = out.origin.toList ++ taskOrigins rest := by
        cases origin : out.origin <;> simp [taskOrigins, origin]
      simp [replays, here, replayMay, next]
  | replayed id msg here =>
      have named := registered.handling id msg (by simp [here, registrationAt])
      refine held.setConn id _ rfl (fun conn apart => if_neg (Ne.symm apart)) fun call => ?_
      simp [replays, here, replayMay, named]
  | receive id msg here =>
      refine held.setConn id _ rfl (fun _ _ => rfl) fun call => ?_
      unfold arrive
      split
      · next first =>
          have unnamed : (state.conns id).registered.isNone = true := by
            simp only [Bool.and_eq_true] at first
            exact first.2
          simp [replays, replayMay, here, unnamed]
      · simp [replays, replayMay, here]
  | hangUp id here =>
      refine held.setConn id _ rfl (fun _ _ => rfl) fun call => ?_
      unfold hungUp
      split <;> simp_all [replays, replayMay]
  | acknowledgeRegistration id msg write here | register id msg here | drain id msg here
  | locate id msg here | route id msg position update limiter here
  | reject id msg position failure limiter here | upsert id update nodeId capability here
  | ackTask id nodeId taskId command status reasons here | pass id update here
  | correlate id nodeId taskId status reasons cleared here | emit id update updates here
  | disconnect id nodeId here | unregister id nodeId here | announce id nodeId updates here =>
      refine held.setConn id _ rfl (fun conn apart => if_neg (Ne.symm apart)) fun call => ?_
      simp [replays, replayMay, here]
  | deliver id nodeId conn out write here sent =>
      exact held.setConn conn _ rfl (fun _ _ => rfl) fun call => by simp [replays, replayMay]
  | writerTakes id | writerWrote id | writerFailed id =>
      exact held.setConn id _ rfl (fun _ _ => rfl) fun call => by simp [replays, replayMay]
  | _ => exact held.congr rfl fun _ => rfl

theorem handsOnce_step (config : BridgeConfig F) {trace : Trace (Bridge F) (Action F)}
    {state after : Bridge F} {action : Action F} (once : EnqueuedOnce state)
    (held : HandsOnce trace state) (moved : Moves config state action after) :
    HandsOnce ((state, action) :: trace) after := by
  have quiet : (∀ conn, hands conn (state, action) = none) → after.calls = state.calls →
      HandsOnce ((state, action) :: trace) after := by
    intro silent calls conn id
    rw [count_handedTo, silent, calls]
    simpa using held conn id
  cases moved with
  | startTask id nodeId msg commandId here =>
      refine held.setCall id _ rfl (fun _ _ pushed => nomatch pushed) fun conn => ?_
      rcases startSendTask_cases nodeId msg commandId with ⟨result, shape⟩ | ⟨task, shape⟩ <;>
        simp [hands, shape, here, callMay]
  | startAlert id nodeId alertId status reasons here =>
      exact held.setCall id _ rfl (fun _ _ pushed => nomatch pushed)
        fun conn => by simp [hands, here, callMay]
  | deliver id nodeId conn out write here sent =>
      have own := once.origin id nodeId conn out here
      refine held.setCall id _ rfl (fun other latest pushed => ?_) fun other => ?_
      · simp only [hands, here] at pushed
        split at pushed
        · rw [own (by rw [pushed]; rfl)] at pushed
          exact (Option.some.inj pushed).symm
        · cases pushed
      · cases origin : out.origin with
        | none => simp [hands, here, origin, callMay]
        | some number =>
            have is := own (by simp [origin])
            rw [origin] at is
            cases is
            by_cases same : conn = other <;> simp [hands, here, origin, callMay, same]
  | skipInsert id task here | absent id task here | alertAbsent id nodeId msg here
  | insert id task command here | queue id task here | queueReap id task here
  | callReap id task removed here | connect id task conn here
  | alertConnect id nodeId msg conn here =>
      refine held.setCall id _ rfl (fun conn other pushed => ?_) fun conn => ?_
      · simp [hands, here] at pushed
      · simp [hands, here, callMay]
  | _ => exact quiet (fun _ => rfl) rfl

/-- Only the replay and the call push a task. -/
theorem triedTasks_step (config : BridgeConfig F) {state after : Bridge F} {action : Action F}
    (moved : Moves config state action after) (conn : ConnId) :
    triedTasks (after.conns conn) = triedTasks (state.conns conn) ++
      (replays conn (state, action)).toList ++ (hands conn (state, action)).toList := by
  cases moved with
  | startTask | startAlert | tick | consume | dropReceiver => simp [replays, hands, setCall]
  | skipInsert id task here | absent id task here | alertAbsent id nodeId msg here
  | insert id task command here | queue id task here | queueReap id task here
  | callReap id task removed here | connect id task target here
  | alertConnect id nodeId msg target here => simp [replays, hands, setCall, here]
  | deliver id nodeId target out write here sent =>
      by_cases same : target = conn
      · subst same
        simp [replays, hands, here, setCall, setWrite, setConn, triedTasks,
          triedTasks_send sent]
      · simp [replays, hands, here, setCall, setWrite, setConn, same, Ne.symm same]
  | acknowledgeRegistration id msg write here sent =>
      by_cases same : id = conn
      · subst same
        simp [replays, hands, here, setConn, triedTasks, triedTasks_send sent]
      · simp [replays, hands, setConn, same, Ne.symm same]
  | replay id msg out rest write here sent =>
      by_cases same : id = conn
      · subst same
        simp [replays, hands, here, setConn, triedTasks, triedTasks_send sent]
      · simp [replays, hands, setConn, same, Ne.symm same]
  | writerTakes id out write taken =>
      by_cases same : id = conn
      · subst same
        simp [replays, hands, setConn, triedTasks, Channel.attempts_recv taken]
      · simp [replays, hands, setConn, Ne.symm same]
  | receive id msg here =>
      by_cases same : id = conn
      · subst same
        unfold arrive
        split <;> simp [replays, hands, setConn, triedTasks]
      · simp [replays, hands, setConn, Ne.symm same]
  | hangUp id here | writerWrote id | writerFailed id =>
      by_cases same : id = conn
      · subst same
        simp [replays, hands, setStage, setConn, triedTasks]
      · simp [replays, hands, setStage, setConn, Ne.symm same]
  | register id msg here | drain id msg here | snapshot id msg here
  | connReap id msg expired here | replayed id msg here
  | locate id msg here | route id msg position update limiter here
  | reject id msg position failure limiter here | upsert id update nodeId capability here
  | ackTask id nodeId taskId command status reasons here | pass id update here
  | correlate id nodeId taskId status reasons cleared here | emit id update updates here
  | disconnect id nodeId here | unregister id nodeId here | announce id nodeId updates here =>
      by_cases same : id = conn
      · subst same
        simp [replays, hands, here, setStage, setConn, triedTasks]
      · simp [replays, hands, setStage, setConn, same, Ne.symm same]

theorem tried_run (config : BridgeConfig F) {trace : Trace (Bridge F) (Action F)}
    {state : Bridge F} (run : Run (machine config) trace state) (conn : ConnId)
    (call : CallId) :
    (triedTasks (state.conns conn)).count call =
      (replayedTo conn trace).count call + (handedTo conn trace).count call := by
  induction run with
  | start => rfl
  | next earlier taken ih =>
      have pushed := triedTasks_step config (moves_of_step config taken) conn
      rw [pushed, List.count_append, List.count_append, count_replayedTo, count_handedTo, ih]
      omega

/-- In every run, what has been pushed to a connection or refused by it was pushed by the
replay of the connection's Registration or by the call that enqueued it, and each of them
pushes a task once at most, however often the node reconnects and whatever else goes on. -/
theorem pushed_at_most_twice (config : BridgeConfig F) {trace : Trace (Bridge F) (Action F)}
    {state : Bridge F} (run : Run (machine config) trace state) (conn : ConnId)
    (call : CallId) :
    (triedTasks (state.conns conn)).count call =
        (replayedTo conn trace).count call + (handedTo conn trace).count call ∧
      (replayedTo conn trace).count call ≤ 1 ∧ (handedTo conn trace).count call ≤ 1 := by
  have held : EnqueuedOnce state ∧ ReplaysOnce trace state ∧ HandsOnce trace state := by
    apply run.invariant fun trace state =>
      EnqueuedOnce state ∧ ReplaysOnce trace state ∧ HandsOnce trace state
    · refine ⟨⟨fun id target conn out delivering => ?_, fun _ => List.nodup_nil,
        fun _ _ member => ?_⟩, fun _ _ => Nat.le_refl 1, fun _ _ => Nat.le_refl 1⟩
      · cases delivering
      · cases member
    · rintro trace before action after earlier ⟨once, replayed, handed⟩ taken
      have registered := (delivery_invariant config ⟨trace, earlier⟩).2.1
      have moved := moves_of_step config taken
      exact ⟨enqueuedOnce_step config once moved,
        replaysOnce_step config registered once replayed moved,
        handsOnce_step config once handed moved⟩
  have replayed := held.2.1 conn call
  have handed := held.2.2 conn call
  exact ⟨tried_run config run conn call, by omega, by omega⟩

/-- A replay and a call do push the same task. -/
theorem pushed_at_most_twice_replayed :
    ∃ (trace : Trace (Bridge Float) (Action Float)) (state : Bridge Float),
      (triedTasks (state.conns 0)).count 0 = 2 ∧
      (triedTasks (state.conns 0)).count 0 =
        (replayedTo 0 trace).count 0 + (handedTo 0 trace).count 0 ∧
      (replayedTo 0 trace).count 0 ≤ 1 ∧ (handedTo 0 trace).count 0 ≤ 1 :=
  ⟨_, _, rfl, pushed_at_most_twice plainConfig (replay_reachable replayedAndPushed rfl) 0 0⟩

end PeatSapient.Bridge
