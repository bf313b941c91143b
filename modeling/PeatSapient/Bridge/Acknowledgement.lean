import PeatSapient.Bridge.Moves

/-! Which command a TaskAck is enriched with. The first acknowledgement of a task
takes its correlation away, so the command reaches the application once. -/

namespace PeatSapient.Bridge

open HashMap Mpsc Execution

variable {F : Type}

/-! The steps that write or remove the correlation of a task id. -/

def inserts (taskId : String) : Bridge F × Action F → Bool
  | (state, .advance id) =>
      match state.calls id with
      | .inserting task => task.taskId == taskId && task.commandId.isSome
      | _ => false
  | _ => false

def correlates (taskId : String) : Bridge F × Action F → Bool
  | (state, .proceed conn) =>
      match (state.conns conn).stage with
      | .correlating _ acked _ _ _ => acked == taskId
      | _ => false
  | _ => false

def reaps (taskId : String) : Bridge F × Action F → Bool
  | (state, .advance id) =>
      match state.calls id with
      | .reaping _ removed => removed.contains taskId
      | _ => false
  | (state, .proceed conn) =>
      match (state.conns conn).stage with
      | .reaping _ expired => expired.contains taskId
      | _ => false
  | _ => false

def enriches (nodeId taskId : String) : Bridge F × Action F → Bool
  | (state, .proceed conn) =>
      match (state.conns conn).stage with
      | .correlating sender acked _ _ _ => sender == nodeId && acked == taskId
      | _ => false
  | _ => false

def storedSince (taskId : String) : Trace (Bridge F) (Action F) → Bool
  | [] => false
  | entry :: earlier =>
      inserts taskId entry || (!correlates taskId entry && storedSince taskId earlier)

def correlated (taskId : String) : Trace (Bridge F) (Action F) → Bool
  | [] => false
  | entry :: earlier =>
      inserts taskId entry ||
        (!correlates taskId entry && !reaps taskId entry && correlated taskId earlier)

theorem correlated_of_storedSince {taskId : String} {trace : Trace (Bridge F) (Action F)}
    (stored : storedSince taskId trace = true)
    (kept : ∀ entry ∈ trace, reaps taskId entry = false) :
    correlated taskId trace = true := by
  induction trace with
  | nil => exact stored
  | cons entry earlier ih =>
      have older := fun present => ih present fun other member =>
        kept other (List.mem_cons_of_mem entry member)
      have unreaped := kept entry List.mem_cons_self
      simp only [storedSince, Bool.or_eq_true, Bool.and_eq_true] at stored
      rcases stored with inserted | ⟨uncorrelated, present⟩
      · simp [correlated, inserted]
      · simp only [correlated, Bool.or_eq_true, Bool.and_eq_true]
        exact Or.inr ⟨⟨uncorrelated, by simp [unreaped]⟩, older present⟩

def sendsOnly (taskId : String) (call : CallId) (nodeId command : String) :
    Action F → Bool
  | .sendTask id target msg given =>
      match extractTaskId msg with
      | .error _ => true
      | .ok named =>
          named != taskId || (id == call && target == nodeId && given == some command)
  | _ => true

def SentOnce (taskId : String) (call : CallId) (nodeId command : String)
    (trace : Trace (Bridge F) (Action F)) : Prop :=
  ∀ entry ∈ trace, sendsOnly taskId call nodeId command entry.2 = true

theorem SentOnce.tail {taskId : String} {call : CallId} {nodeId command : String}
    {entry : Bridge F × Action F} {trace : Trace (Bridge F) (Action F)}
    (once : SentOnce taskId call nodeId command (entry :: trace)) :
    SentOnce taskId call nodeId command trace :=
  fun other member => once other (List.mem_cons_of_mem entry member)

variable [FloatOps F]

inductive CommandStep (taskId : String) (state : Bridge F) (action : Action F)
    (after : Bridge F) : Prop where
  | inserted (id : CallId) (task : TaskCall F) (command : String)
      (here : state.calls id = .inserting task) (named : task.taskId = taskId)
      (given : task.commandId = some command) (hit : inserts taskId (state, action) = true)
      (result : after.taskCommands.lookup taskId = some command)
  | removed (quiet : inserts taskId (state, action) = false)
      (hit : correlates taskId (state, action) = true ∨ reaps taskId (state, action) = true)
      (result : after.taskCommands.lookup taskId = none)
  | kept (quiet : inserts taskId (state, action) = false)
      (uncorrelated : correlates taskId (state, action) = false)
      (unreaped : reaps taskId (state, action) = false)
      (result : after.taskCommands.lookup taskId = state.taskCommands.lookup taskId)

theorem commandStep_of_moves (config : BridgeConfig F) {state after : Bridge F}
    {action : Action F} (taskId : String) (moved : Moves config state action after) :
    CommandStep taskId state action after := by
  -- Four steps touch the correlation map: one stores, two reap, one enriches.
  cases moved with
  | insert id task command here given =>
      by_cases named : task.taskId = taskId
      · refine .inserted id task command here named given
          (by simp [inserts, here, named, given]) ?_
        simp [setCall, named]
      · refine .kept (by simp [inserts, here, named]) (by simp [correlates])
          (by simp [reaps, here]) ?_
        simp [setCall, Ne.symm named]
  | callReap id task removed here =>
      by_cases listed : taskId ∈ removed
      · refine .removed (by simp [inserts, here]) (Or.inr (by simp [reaps, here, listed])) ?_
        simp [setCall, lookup_eraseAll, listed]
      · refine .kept (by simp [inserts, here]) (by simp [correlates])
          (by simp [reaps, here, listed]) ?_
        simp [setCall, lookup_eraseAll, listed]
  | connReap id msg expired here =>
      by_cases listed : taskId ∈ expired
      · refine .removed (by simp [inserts]) (Or.inr (by simp [reaps, here, listed])) ?_
        simp [setStage, setConn, lookup_eraseAll, listed]
      · refine .kept (by simp [inserts]) (by simp [correlates, here])
          (by simp [reaps, here, listed]) ?_
        simp [setStage, setConn, lookup_eraseAll, listed]
  | correlate id nodeId acked status reasons cleared here =>
      by_cases same : acked = taskId
      · subst same
        refine .removed (by simp [inserts]) (Or.inl (by simp [correlates, here])) ?_
        simp [setStage, setConn]
      · refine .kept (by simp [inserts]) (by simp [correlates, here, same])
          (by simp [reaps, here]) ?_
        simp [setStage, setConn, Ne.symm same]
  | skipInsert id task here missing =>
      exact .kept (by simp [inserts, here, missing]) (by simp [correlates])
        (by simp [reaps, here]) rfl
  | queue id task here free clean
  | queueReap id task here free stale
  | absent id task here free missing
  | connect id task conn here free found
  | alertAbsent id nodeId msg here free missing
  | alertConnect id nodeId msg conn here free found
  | deliver id nodeId conn out write here sent =>
      exact .kept (by simp [inserts, here]) (by simp [correlates]) (by simp [reaps, here]) rfl
  | register id msg here free
  | acknowledgeRegistration id msg write here sent
  | snapshot id msg here free clean
  | drain id msg here free stale
  | replayed id msg here
  | replay id msg out rest write here sent
  | locate id msg here
  | route id msg position update limiter here routed
  | reject id msg position failure limiter here routed
  | upsert id update nodeId capability here writes
  | ackTask id nodeId acked command status reasons here free
  | pass id update here silent other
  | emit id update updates here sent
  | disconnect id nodeId here free
  | unregister id nodeId here
  | announce id nodeId updates here sent =>
      exact .kept (by simp [inserts]) (by simp [correlates, here]) (by simp [reaps, here]) rfl
  | tick | startTask | startAlert | receive | hangUp | writerTakes | writerWrote
  | writerFailed | consume | dropReceiver =>
      exact .kept (by simp [inserts]) (by simp [correlates]) (by simp [reaps]) rfl

def InsertsOnly (taskId command : String) (state : Bridge F) : Prop :=
  ∀ id task, state.calls id = .inserting task → task.taskId = taskId →
    task.commandId = some command

theorem insertsOnly_step (config : BridgeConfig F) {state after : Bridge F}
    {action : Action F} {taskId : String} {call : CallId} {nodeId command : String}
    (held : InsertsOnly taskId command state)
    (once : sendsOnly taskId call nodeId command action = true)
    (moved : Moves config state action after) : InsertsOnly taskId command after := by
  -- A call is about to insert only right after it has started.
  have quiet : ∀ (id : CallId) (next : ApiCall F), (∀ task, next ≠ .inserting task) →
      ∀ other task, Function.update state.calls id next other = .inserting task →
        task.taskId = taskId → task.commandId = some command := by
    intro id next silent other task at_ named
    by_cases same : other = id
    · subst same
      exact absurd (by simpa using at_) (silent task)
    · exact held other task (by simpa [same] using at_) named
  cases moved with
  | startTask id target sent commandId here =>
      intro other task at_ named
      by_cases same : other = id
      · subst same
        simp only [setCall, Function.update_self, startSendTask] at at_
        split at at_
        · cases at_
        · next extracted found =>
            cases at_
            simp only [sendsOnly, found] at once
            subst named
            simp at once
            exact once.2
      · exact held other task (by simpa [setCall, same] using at_) named
  | startAlert id target alertId status reasons here
  | insert id task given here
  | skipInsert id task here missing
  | queue id task here free clean
  | queueReap id task here free stale
  | callReap id task removed here
  | absent id task here free missing
  | connect id task conn here free found
  | alertAbsent id target sent here free missing
  | alertConnect id target sent conn here free found
  | deliver id target conn out write here sent =>
      exact quiet id _ (by simp)
  | _ => exact held

/-- The correlation of a task sent once is what its history says. -/
theorem command_of_history (config : BridgeConfig F) {taskId : String} {call : CallId}
    {nodeId command : String} {trace : Trace (Bridge F) (Action F)} {state : Bridge F}
    (run : Run (machine config) trace state)
    (once : SentOnce taskId call nodeId command trace) :
    InsertsOnly taskId command state ∧
      state.taskCommands.lookup taskId =
        if correlated taskId trace then some command else none := by
  revert once
  refine run.invariant (fun trace state => SentOnce taskId call nodeId command trace →
    InsertsOnly taskId command state ∧
      state.taskCommands.lookup taskId =
        if correlated taskId trace then some command else none) ?_ ?_
  · intro _
    refine ⟨fun _ _ inserting => ?_, ?_⟩
    · simp [machine, new] at inserting
    · simp [machine, new, correlated]
  · intro trace before action after _ ih taken once
    obtain ⟨only, lookup⟩ := ih once.tail
    have moved := moves_of_step config taken
    refine ⟨insertsOnly_step config only (once (before, action) List.mem_cons_self) moved, ?_⟩
    -- The latest of store, reap and enrichment decides, in the map as in the history.
    cases commandStep_of_moves config taskId moved with
    | inserted id task stored here named given hit result =>
        have mine := only id task here named
        rw [given] at mine
        simp [result, correlated, hit, mine]
    | removed quiet hit result =>
        rcases hit with hit | hit <;> simp [result, correlated, quiet, hit]
    | kept quiet uncorrelated unreaped result =>
        simp [result, lookup, correlated, quiet, uncorrelated, unreaped]

structure Answered (nodeId taskId command : String) (state : Bridge F) : Prop where
  emitting : ∀ conn given status reasons, (state.conns conn).stage =
      .emitting (.taskAcknowledged nodeId taskId given status reasons) →
    given = some command
  offered : ∀ source given status reasons,
    state.updates.Offered ⟨source, .taskAcknowledged nodeId taskId given status reasons⟩ →
      given = some command

omit [FloatOps F] in
theorem Answered.setConn {nodeId taskId command : String} {state : Bridge F}
    (held : Answered nodeId taskId command state) (id : ConnId) (conn : Connection F)
    (quiet : ∀ given status reasons, conn.stage =
        .emitting (.taskAcknowledged nodeId taskId given status reasons) →
      given = some command) :
    Answered nodeId taskId command (state.setConn id conn) where
  emitting := by
    intro other given status reasons at_
    by_cases same : other = id
    · subst same
      exact quiet given status reasons (by simpa [Bridge.setConn] using at_)
    · exact held.emitting other given status reasons
        (by simpa [Bridge.setConn, same] using at_)
  offered := held.offered

omit [FloatOps F] in
theorem Answered.congr {nodeId taskId command : String} {before after : Bridge F}
    (held : Answered nodeId taskId command before) (conns : after.conns = before.conns)
    (updates : ∀ emitted, after.updates.Offered emitted → before.updates.Offered emitted ∨
      ¬ IsTaskAck emitted.update) : Answered nodeId taskId command after where
  emitting := by
    rw [conns]
    exact held.emitting
  offered := by
    intro source given status reasons offered
    rcases updates _ offered with older | other
    · exact held.offered source given status reasons older
    · exact absurd trivial other

theorem answered_step (config : BridgeConfig F) {state after : Bridge F} {action : Action F}
    {nodeId taskId command : String} (held : Answered nodeId taskId command state)
    (enriched : enriches nodeId taskId (state, action) = true →
      state.taskCommands.lookup taskId = some command)
    (moved : Moves config state action after) : Answered nodeId taskId command after := by
  -- A TaskAcknowledged update is built by `correlate` alone; after that it only moves on.
  cases moved with
  | correlate id sender acked status reasons cleared here =>
      refine Answered.congr (held.setConn id _ ?_) rfl fun _ => Or.inl
      intro given status' reasons' at_
      simp only [Stage.emitting.injEq, SapientUpdate.taskAcknowledged.injEq] at at_
      obtain ⟨rfl, rfl, rfl, _, _⟩ := at_
      exact enriched (by simp [enriches, here])
  | upsert id update target capability here writes =>
      refine Answered.congr (held.setConn id _ ?_) rfl fun _ => Or.inl
      intro given status reasons at_
      simp only [Stage.emitting.injEq] at at_
      subst at_
      cases writes
  | pass id update here silent other =>
      apply held.setConn id _
      intro given status reasons at_
      simp only [Stage.emitting.injEq] at at_
      subst at_
      exact absurd trivial other
  | emit id update updates here sent =>
      refine ⟨?_, fun source given status reasons offered => ?_⟩
      · exact (held.setConn id { state.conns id with stage := .reading } (by simp)).emitting
      · rcases (Channel.offered_send sent _).mp offered with older | new
        · exact held.offered source given status reasons older
        -- It was held back until now by the full channel of updates.
        · simp only [Emitted.mk.injEq] at new
          exact held.emitting id given status reasons (by rw [here, new.2])
  | announce id target updates here sent =>
      refine Answered.congr (held.setConn id _ ?_) rfl fun emitted offered => ?_
      · simp
      · rcases (Channel.offered_send sent emitted).mp offered with older | new
        · exact Or.inl older
        · right
          rw [new]
          exact not_false
  | register id msg here free
  | acknowledgeRegistration id msg write here sent
  | snapshot id msg here free clean
  | drain id msg here free stale
  | connReap id msg expired here
  | replayed id msg here
  | replay id msg out rest write here sent
  | locate id msg here
  | route id msg position update limiter here routed
  | reject id msg position failure limiter here routed
  | ackTask id sender acked given status reasons here free
  | disconnect id target here free
  | unregister id target here =>
      refine Answered.congr (held.setConn id _ ?_) rfl fun _ => Or.inl
      simp
  | deliver id target conn out write here sent =>
      exact Answered.congr (held.setConn conn { state.conns conn with write := write }
        (held.emitting conn)) rfl fun _ => Or.inl
  | receive id msg here =>
      apply held.setConn id _
      unfold arrive
      split <;> simp
  | hangUp id here =>
      apply held.setConn id _
      unfold hungUp
      split <;> simp
  | writerTakes id out write taken
  | writerWrote id
  | writerFailed id =>
      exact held.setConn id _ (held.emitting id)
  | consume emitted updates taken =>
      exact held.congr rfl fun other offered =>
        Or.inl ((Channel.offered_recv taken other).mp offered)
  | dropReceiver => exact held.congr rfl fun _ => Or.inl
  | _ => exact held.congr rfl fun _ => Or.inl

/-- The task was not evicted and has not expired before the acknowledgement. -/
def NotReaped (nodeId taskId : String) (earlier : Trace (Bridge F) (Action F))
    (state : Bridge F) (action : Action F) : Prop :=
  enriches nodeId taskId (state, action) = true →
    ∀ entry ∈ earlier, reaps taskId entry = false

/-- The acknowledgement is the first one since the command was stored. -/
def FirstAck (nodeId taskId : String) (earlier : Trace (Bridge F) (Action F))
    (state : Bridge F) (action : Action F) : Prop :=
  enriches nodeId taskId (state, action) = true → storedSince taskId earlier = true

/-- In a run where a task with a command is sent once, and is not evicted and does not
expire before it is acknowledged, every acknowledgement of the node carries the
command as long as each is the first one since the command was stored. -/
theorem first_ack_carries_command (config : BridgeConfig F) (nodeId taskId : String)
    (call : CallId) (command : String) {trace : Trace (Bridge F) (Action F)}
    {state : Bridge F} (run : Run (machine config) trace state)
    (once : SentOnce taskId call nodeId command trace)
    (kept : Meets (NotReaped nodeId taskId) trace)
    (first : Meets (FirstAck nodeId taskId) trace) :
    ∀ source given status reasons,
      state.updates.Offered ⟨source, .taskAcknowledged nodeId taskId given status reasons⟩ →
        given = some command := by
  suffices answered : Answered nodeId taskId command state from answered.offered
  revert once kept first
  refine run.invariant (fun trace state => SentOnce taskId call nodeId command trace →
    Meets (NotReaped nodeId taskId) trace → Meets (FirstAck nodeId taskId) trace →
      Answered nodeId taskId command state) ?_ ?_
  · intro _ _ _
    refine ⟨fun _ _ _ _ at_ => ?_, fun _ _ _ _ offered => ?_⟩
    · simp [machine, new] at at_
    · simp [machine, new, Channel.Offered, Channel.pushed, channel] at offered
  · intro trace before action after earlier ih taken once kept first
    refine answered_step config (ih once.tail kept.2 first.2) (fun enriching => ?_)
      (moves_of_step config taken)
    have stored := correlated_of_storedSince (first.1 enriching) (kept.1 enriching)
    simp [(command_of_history config earlier once.tail).2, stored]

instance (taskId : String) (call : CallId) (nodeId command : String)
    (trace : Trace (Bridge F) (Action F)) :
    Decidable (SentOnce taskId call nodeId command trace) :=
  inferInstanceAs (Decidable (∀ entry ∈ trace, _))

omit [FloatOps F] in
instance (nodeId taskId : String) (earlier : Trace (Bridge F) (Action F)) (state : Bridge F)
    (action : Action F) : Decidable (NotReaped nodeId taskId earlier state action) :=
  inferInstanceAs (Decidable (_ = true → ∀ entry ∈ earlier, _))

instance (nodeId taskId : String) (earlier : Trace (Bridge F) (Action F)) (state : Bridge F)
    (action : Action F) : Decidable (FirstAck nodeId taskId earlier state action) :=
  inferInstanceAs (Decidable (_ = true → _ = true))

def accepted : List (Action Float) :=
  .receive 0 (registrationOf "n") :: List.replicate 8 (.proceed 0) ++
    .sendTask 0 "n" (taskMessage "t") (some "cmd") :: List.replicate 4 (.advance 0) ++
    .receive 0 (taskAckOf "n" "t" 1) :: List.replicate 5 (.proceed 0)

def acceptedThenCompleted : List (Action Float) :=
  accepted ++ .receive 0 (taskAckOf "n" "t" 3) :: List.replicate 5 (.proceed 0)

/-- Without the condition on the acknowledgements the command gets lost: the
completion carries none. -/
theorem later_ack_loses_command :
    ¬ ∀ (nodeId taskId : String) (call : CallId) (command : String)
        (trace : Trace (Bridge Float) (Action Float)) (state : Bridge Float),
      Run (machine plainConfig) trace state →
      SentOnce taskId call nodeId command trace →
      (∃ entry ∈ trace, ∃ msg, entry.2 = .sendTask call nodeId msg (some command)) →
      Meets (NotReaped nodeId taskId) trace →
      ∀ source given status reasons,
        state.updates.Offered ⟨source, .taskAcknowledged nodeId taskId given status reasons⟩ →
          given = some command := by
  intro claimed
  have answered := claimed "n" "t" 0 "cmd" _ _
    (replay_reachable acceptedThenCompleted rfl) (by decide)
    ⟨_, List.mem_of_getElem? (i := 16) rfl, taskMessage "t", rfl⟩ (by decide)
    0 none .completed []
    (Or.inl (List.mem_cons_of_mem _ (List.mem_cons_of_mem _ List.mem_cons_self)))
  cases answered

theorem first_ack_carries_command_accepted :
    ∃ state : Bridge Float,
      state.updates.Offered ⟨0, .taskAcknowledged "n" "t" (some "cmd") .accepted []⟩ ∧
      ∀ source given status reasons,
        state.updates.Offered ⟨source, .taskAcknowledged "n" "t" given status reasons⟩ →
          given = some "cmd" :=
  ⟨_, Or.inl (List.mem_cons_of_mem _ List.mem_cons_self),
    first_ack_carries_command plainConfig "n" "t" 0 "cmd" (replay_reachable accepted rfl)
      (by decide) (by decide) (by decide)⟩

end PeatSapient.Bridge
