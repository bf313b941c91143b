import PeatSapient.Bridge.Acknowledgement
import PeatSapient.Bridge.Conversation
import PeatSapient.Bridge.TaskOrder
import PeatSapient.TaskQueue.Causes

/-! What becomes of every task. The bridge's queue is run by many calls and connections, each
under its lock; together they perform the operations of the ledger, at times that do not
decrease. So every task that a call has queued stands in the ledger once, pending or settled,
and what settled it is found in the run. -/

namespace PeatSapient.Bridge

open HashMap Mpsc Execution Ledger

variable {F : Type}

def operations : Bridge F × Action F → List (Nat × Operation (Outgoing F))
  | (state, .advance id) =>
      match state.calls id with
      | .queueing task =>
          [(state.clock, .drainExpired),
            (state.clock, .enqueue task.nodeId task.taskId ⟨some id, task.msg⟩)]
      | _ => []
  | (state, .proceed id) =>
      match (state.conns id).stage with
      | .snapshotting _ => [(state.clock, .drainExpired)]
      | .recording (.taskAcknowledged nodeId taskId _ _ _) =>
          [(state.clock, .ack nodeId taskId)]
      | _ => []
  | _ => []

def queues (ttl : Nat) : Bridge F × Action F → List (String × QueuedTask (Outgoing F))
  | (state, .advance id) =>
      match state.calls id with
      | .queueing task =>
          [(task.nodeId, ⟨⟨some id, task.msg⟩, task.taskId, state.clock, ttl⟩)]
      | _ => []
  | _ => []

def acknowledges (nodeId taskId : String) (msg : SapientMessage F) : Prop :=
  msg.sender = nodeId ∧ ∃ ack, msg.content = some (.taskAck ack) ∧ ack.taskId.getD "" = taskId

/-- What in the run settled the entry: a TaskAck of its node about it, a step after its time,
or another task for its node, queued while its node's queue was full with it as the oldest. -/
def Explained (config : BridgeConfig F) (trace : Trace (Bridge F) (Action F))
    (entry : Entry (Outgoing F)) : Prop :=
  match entry.fate with
  | .pending => True
  | .acked _ => ∃ conn, ∃ msg ∈ receivedOn conn trace,
      acknowledges entry.nodeId entry.task.taskId msg
  | .expired _ => ∃ before action, (before, action) ∈ trace ∧
      entry.task.expired before.clock = true
  | .evicted _ => ∃ before id task, (before, .advance id) ∈ trace ∧
      before.calls id = .queueing task ∧ task.nodeId = entry.nodeId ∧
      config.taskQueueDepth ≤
        ((before.taskQueue.drainExpired before.clock).2.queueFor entry.nodeId).length ∧
      ((before.taskQueue.drainExpired before.clock).2.queueFor entry.nodeId).head? =
        some entry.task

structure Entered (config : BridgeConfig F) (trace : Trace (Bridge F) (Action F))
    (queue : TaskQueue (Outgoing F)) (clock : Nat)
    (tasks : List (String × QueuedTask (Outgoing F))) (spec : Books (Outgoing F)) : Prop where
  queue : spec.queue = queue
  clock : spec.clock ≤ clock
  tasks : (spec.ledger.map Entry.origin).map Prod.snd = tasks
  explained : ∀ entry ∈ spec.ledger, Explained config trace entry

def queueBooks (config : BridgeConfig F) :
    Machine (Books (Outgoing F)) (Nat × Operation (Outgoing F)) :=
  books config.taskQueueDepth config.taskTtl

theorem mem_receivedOn_cons {conn : ConnId} {trace : Trace (Bridge F) (Action F)}
    {msg : SapientMessage F} (member : msg ∈ receivedOn conn trace)
    (entry : Bridge F × Action F) : msg ∈ receivedOn conn (entry :: trace) := by
  rw [receivedOn_cons]
  exact List.mem_append_left _ member

theorem Explained.later {config : BridgeConfig F} {trace : Trace (Bridge F) (Action F)}
    {entry : Entry (Outgoing F)} (explained : Explained config trace entry)
    (step : Bridge F × Action F) : Explained config (step :: trace) entry := by
  unfold Explained at explained ⊢
  split
  · trivial
  · next written =>
      rw [written] at explained
      obtain ⟨conn, msg, heard, about⟩ := explained
      exact ⟨conn, msg, mem_receivedOn_cons heard step, about⟩
  · next written =>
      rw [written] at explained
      obtain ⟨before, action, member, old⟩ := explained
      exact ⟨before, action, List.mem_cons_of_mem _ member, old⟩
  · next written =>
      rw [written] at explained
      obtain ⟨before, id, task, member, rest⟩ := explained
      exact ⟨before, id, task, List.mem_cons_of_mem _ member, rest⟩

theorem Entered.later {config : BridgeConfig F} {trace : Trace (Bridge F) (Action F)}
    {queue : TaskQueue (Outgoing F)} {clock : Nat}
    {tasks : List (String × QueuedTask (Outgoing F))} {spec : Books (Outgoing F)}
    (held : Entered config trace queue clock tasks spec) (step : Bridge F × Action F) :
    Entered config (step :: trace) queue clock tasks spec :=
  ⟨held.queue, held.clock, held.tasks, fun entry listed => (held.explained entry listed).later step⟩

theorem Entered.perform {config : BridgeConfig F} {trace : Trace (Bridge F) (Action F)}
    {queue : TaskQueue (Outgoing F)} {clock : Nat}
    {tasks : List (String × QueuedTask (Outgoing F))} {spec : Books (Outgoing F)}
    (held : Entered config trace queue clock tasks spec) (operation : Operation (Outgoing F))
    (cause : ∀ entry ∈ spec.ledger,
      Retires config.taskQueueDepth clock spec.ledger entry operation →
        ∀ call, Explained config trace (entry.withFate (operation.fate call))) :
    ∃ after, (queueBooks config).step spec (clock, operation) = some after ∧
      Entered config trace (Ledger.perform queue clock operation).2 clock
        (tasks ++ (added config.taskTtl 0 clock operation).map Prod.snd) after := by
  obtain ⟨after, taken⟩ := books_enabled config.taskQueueDepth config.taskTtl
    held.clock operation
  obtain ⟨_, sameClock, sameQueue, ledger, _⟩ := books_step taken
  refine ⟨after, taken, ?_, Nat.le_of_eq sameClock, ?_, ?_⟩
  · rw [sameQueue, held.queue]
  · rw [ledger, origins_post, List.map_append, held.tasks]
    cases operation <;> rfl
  · rw [ledger]
    refine post_all held.explained ?_ fun entry listed settles => cause entry listed settles _
    intro entry pending
    simp [Explained, pending]

structure Heard (received : List (SapientMessage F)) (now : Dialogue F) : Prop where
  hand : ∀ msg, now.inHand = some msg → msg ∈ received
  reply : ∀ nodeId taskId status reasons,
    now.inReply = some (.taskAcknowledged nodeId taskId none status reasons) →
      ∃ msg ∈ received, acknowledges nodeId taskId msg

variable [FloatOps F]

theorem acknowledges_of_answers {config : BridgeConfig F} {msg : SapientMessage F}
    {nodeId taskId : String} {status : TaskAckStatus} {reasons : List String}
    (answers : Answers config msg (some (.taskAcknowledged nodeId taskId none status reasons))) :
    acknowledges nodeId taskId msg := by
  cases answers with
  | routed made =>
      cases content : msg.content with
      | none => simp [routeMessage, content] at made
      | some body =>
          cases body with
          | taskAck ack =>
              simp only [routeMessage, content, Except.ok.injEq,
                SapientUpdate.taskAcknowledged.injEq] at made
              exact ⟨made.1, ack, content, made.2.1⟩
          | detectionReport report =>
              simp only [routeMessage, content] at made
              split at made
              · split at made <;> cases made
              · cases made
          | _ => simp [routeMessage, content] at made

theorem Heard.talks {config : BridgeConfig F} {registered : Option String}
    {received : List (SapientMessage F)} {arrived : Option (SapientMessage F)}
    {now later : Dialogue F} (heard : Heard received now)
    (talks : Talks config registered arrived now later) :
    Heard (received ++ arrived.toList) later := by
  cases talks with
  | silent => simpa using heard
  | hears spoken msg => constructor <;> simp
  | answers spoken found =>
      constructor
      · simp
      · rintro nodeId taskId status reasons rfl
        exact ⟨_, by simpa using heard.hand _ rfl, acknowledges_of_answers found⟩
  | speaks | leaves => constructor <;> simp

theorem heard_run (config : BridgeConfig F) {trace : Trace (Bridge F) (Action F)}
    {state : Bridge F} (run : Run (machine config) trace state) (conn : ConnId) :
    Heard (receivedOn conn trace) (dialogue state conn) := by
  induction run with
  | start =>
      constructor
      · intro msg held
        cases held
      · intro nodeId taskId status reasons held
        cases held
  | next earlier taken ih =>
      rw [receivedOn_cons]
      exact ih.talks (talks_step config (orderly config ⟨_, earlier⟩)
        (moves_of_step config taken) conn)

omit [FloatOps F] in
theorem Entered.send {config : BridgeConfig F} {trace : Trace (Bridge F) (Action F)}
    {state : Bridge F} {tasks : List (String × QueuedTask (Outgoing F))}
    {spec : Books (Outgoing F)} {id : CallId} {task : TaskCall F}
    (reached : Reachable (queueBooks config) spec)
    (held : Entered config trace state.taskQueue state.clock tasks spec)
    (here : state.calls id = .queueing task) :
    ∃ after, follow (queueBooks config) spec (operations (state, .advance id)) = some after ∧
      Entered config ((state, .advance id) :: trace) (state.queued id task) state.clock
        (tasks ++ queues config.taskTtl (state, .advance id)) after := by
  obtain ⟨drained, first, between⟩ := (held.later (state, .advance id)).perform .drainExpired
    fun entry _ old _ => ⟨state, .advance id, List.mem_cons_self, old⟩
  obtain ⟨balanced, _⟩ := balanced_run (reached.next first).choose_spec
  have queue : drained.queue = (state.taskQueue.drainExpired state.clock).2 := between.queue
  obtain ⟨after, second, entered⟩ := between.perform
    (.enqueue task.nodeId task.taskId ⟨some id, task.msg⟩) <| by
      rintro entry _ ⟨own, full, oldest⟩ call
      refine ⟨state, id, task, List.mem_cons_self, here, own.symm, ?_, ?_⟩
      · show config.taskQueueDepth ≤
          ((state.taskQueue.drainExpired state.clock).2.queueFor entry.nodeId).length
        rw [← queue, own, balanced.agrees, List.length_map]
        exact full
      · show ((state.taskQueue.drainExpired state.clock).2.queueFor entry.nodeId).head? = _
        rw [← queue, own]
        have first := balanced.oldest oldest
        exact first
  have queued : Entered config _ (state.queued id task) _ _ _ := entered
  refine ⟨after, ?_, ?_⟩
  · simp [operations, here, follow, first, second]
  · simpa [queues, here, added] using queued

/-- Only the steps that lock the queue perform operations on it. -/
theorem entered_step (config : BridgeConfig F) {trace : Trace (Bridge F) (Action F)}
    {state after : Bridge F} {action : Action F} {spec : Books (Outgoing F)}
    {tasks : List (String × QueuedTask (Outgoing F))}
    (heard : ∀ conn, Heard (receivedOn conn trace) (dialogue state conn))
    (reached : Reachable (queueBooks config) spec)
    (held : Entered config trace state.taskQueue state.clock tasks spec)
    (moved : Moves config state action after) :
    ∃ result, follow (queueBooks config) spec (operations (state, action)) = some result ∧
      Entered config ((state, action) :: trace) after.taskQueue after.clock
        (tasks ++ queues config.taskTtl (state, action)) result := by
  have still : operations (state, action) = [] → queues config.taskTtl (state, action) = [] →
      after.taskQueue = state.taskQueue → after.clock = state.clock →
        ∃ result, follow (queueBooks config) spec (operations (state, action)) = some result ∧
          Entered config ((state, action) :: trace) after.taskQueue after.clock
            (tasks ++ queues config.taskTtl (state, action)) result := by
    intro none_ nothing queue clock
    rw [none_, nothing, List.append_nil, queue, clock]
    exact ⟨spec, rfl, held.later _⟩
  cases moved with
  | tick elapsed systemTime =>
      have later := held.later (state, .tick elapsed systemTime)
      refine ⟨spec, rfl, later.queue, ?_, by simpa [queues] using later.tasks, later.explained⟩
      exact Nat.le_trans later.clock (Nat.le_add_right _ _)
  | queue id task here | queueReap id task here => exact held.send reached here
  | snapshot id msg here | drain id msg here =>
      obtain ⟨result, taken, entered⟩ := (held.later (state, .proceed id)).perform .drainExpired
        fun entry _ old _ => ⟨state, .proceed id, List.mem_cons_self, old⟩
      refine ⟨result, ?_, ?_⟩
      · simp [operations, here, follow, taken]
      · exact entered
  | ackTask id nodeId taskId command status reasons here =>
      have answered := (heard id).reply nodeId taskId status reasons
        (by simp [dialogue, here, inReply, withoutCommand])
      obtain ⟨result, taken, entered⟩ := (held.later (state, .proceed id)).perform
        (.ack nodeId taskId) <| by
          rintro entry _ ⟨own, named⟩ call
          obtain ⟨msg, received, about⟩ := answered
          refine ⟨id, msg, mem_receivedOn_cons received _, ?_⟩
          rw [← own, ← named] at about
          exact about
      refine ⟨result, ?_, ?_⟩
      · simp [operations, here, follow, taken]
      · exact entered
  | upsert id update nodeId capability here writes =>
      apply still
      · cases update <;> simp_all [operations, upsertOf]
      · rfl
      · rfl
      · rfl
  | pass id update here silent other =>
      apply still
      · cases update <;> simp_all [operations, IsTaskAck]
      · rfl
      · rfl
      · rfl
  | insert id task command here | skipInsert id task here | callReap id task removed here
  | absent id task here | connect id task conn here | alertAbsent id nodeId msg here
  | alertConnect id nodeId msg conn here | deliver id nodeId conn out write here =>
      exact still (by simp [operations, here]) (by simp [queues, here]) rfl rfl
  | register id msg here | acknowledgeRegistration id msg write here
  | connReap id msg expired here | replayed id msg here | replay id msg out rest write here
  | locate id msg here | route id msg position update limiter here
  | reject id msg position failure limiter here
  | correlate id nodeId taskId status reasons cleared here | emit id update updates here
  | disconnect id nodeId here | unregister id nodeId here | announce id nodeId updates here =>
      exact still (by simp [operations, here]) rfl rfl rfl
  | _ => exact still rfl rfl rfl rfl

/-- How far a call is that was made for the node with this message: it has queued its task
once it is past its critical section, unless it failed before. -/
def Handled (tasks : List (String × QueuedTask (Outgoing F))) (id : CallId) (nodeId : String)
    (msg : SapientMessage F) : ApiCall F → Prop
  | .idle => False
  | .inserting task | .queueing task => task.nodeId = nodeId ∧ task.msg = msg
  | .returned (.error _) => True
  | _ => ∃ task ∈ tasks, task.1 = nodeId ∧ task.2.msg = ⟨some id, msg⟩

structure Called (ttl : Nat) (trace : Trace (Bridge F) (Action F)) (state : Bridge F) :
    Prop where
  handled : ∀ before id nodeId msg commandId,
    (before, .sendTask id nodeId msg commandId) ∈ trace →
      Handled (history (queues ttl) trace) id nodeId msg (state.calls id)
  origins : ∀ task ∈ history (queues ttl) trace, ∃ id,
    task.2.msg.origin = some id ∧ beyondQueue (state.calls id) = true
  once : ((history (queues ttl) trace).map fun task => task.2.msg.origin).Nodup

omit [FloatOps F] in
theorem Handled.more {tasks more : List (String × QueuedTask (Outgoing F))} {id : CallId}
    {nodeId : String} {msg : SapientMessage F} {call : ApiCall F}
    (handled : Handled tasks id nodeId msg call) : Handled (tasks ++ more) id nodeId msg call := by
  have grown : (∃ task ∈ tasks, task.1 = nodeId ∧ task.2.msg = ⟨some id, msg⟩) →
      ∃ task ∈ tasks ++ more, task.1 = nodeId ∧ task.2.msg = ⟨some id, msg⟩ := by
    rintro ⟨task, member, own⟩
    exact ⟨task, List.mem_append_left _ member, own⟩
  cases call with
  | idle => exact handled
  | inserting | queueing => exact handled
  | returned result =>
      cases result with
      | error failure => trivial
      | ok _ => exact grown handled
  | _ => exact grown handled

omit [FloatOps F] in
theorem Called.moves {ttl : Nat} {trace : Trace (Bridge F) (Action F)} {state after : Bridge F}
    {action : Action F} (held : Called ttl trace state) (id : CallId) (call : ApiCall F)
    (calls : after.calls = Function.update state.calls id call)
    (nothing : queues ttl (state, action) = [])
    (asked : ∀ before other nodeId msg commandId,
      (before, .sendTask other nodeId msg commandId) ∈ (state, action) :: trace →
        (before, .sendTask other nodeId msg commandId) ∈ trace ∨
          other = id ∧ ∀ tasks, Handled tasks id nodeId msg call)
    (handled : ∀ tasks nodeId msg, Handled tasks id nodeId msg (state.calls id) →
      Handled tasks id nodeId msg call)
    (beyond : beyondQueue (state.calls id) = true → beyondQueue call = true) :
    Called ttl ((state, action) :: trace) after := by
  have same : history (queues ttl) ((state, action) :: trace) = history (queues ttl) trace := by
    rw [history_cons, nothing, List.append_nil]
  constructor
  · intro before other nodeId msg commandId member
    rw [same, calls]
    rcases asked before other nodeId msg commandId member with earlier | ⟨rfl, now⟩
    · have known := held.handled before other nodeId msg commandId earlier
      by_cases own : other = id
      · subst own
        rw [Function.update_self]
        exact handled _ nodeId msg known
      · rw [Function.update_of_ne own]
        exact known
    · rw [Function.update_self]
      exact now _
  · intro task member
    rw [same] at member
    obtain ⟨other, from_, past⟩ := held.origins task member
    refine ⟨other, from_, ?_⟩
    rw [calls]
    by_cases own : other = id
    · subst own
      rw [Function.update_self]
      exact beyond past
    · rw [Function.update_of_ne own]
      exact past
  · rw [same]
    exact held.once

omit [FloatOps F] in
theorem Called.still {ttl : Nat} {trace : Trace (Bridge F) (Action F)} {state after : Bridge F}
    {action : Action F} (held : Called ttl trace state) (calls : after.calls = state.calls)
    (nothing : queues ttl (state, action) = [])
    (asked : ∀ before other nodeId msg commandId,
      (before, .sendTask other nodeId msg commandId) ∈ (state, action) :: trace →
        (before, .sendTask other nodeId msg commandId) ∈ trace) :
    Called ttl ((state, action) :: trace) after := by
  refine held.moves 0 (state.calls 0) ?_ nothing ?_ (fun _ _ _ known => known) fun past => past
  · rw [calls, Function.update_eq_self]
  · exact fun before other nodeId msg commandId member =>
      Or.inl (asked before other nodeId msg commandId member)

omit [FloatOps F] in
theorem Called.queue {ttl : Nat} {trace : Trace (Bridge F) (Action F)} {state after : Bridge F}
    {id : CallId} {task : TaskCall F} (held : Called ttl trace state)
    (here : state.calls id = .queueing task) (call : ApiCall F)
    (calls : after.calls = Function.update state.calls id call)
    (past : beyondQueue call = true)
    (handled : ∀ tasks nodeId msg,
      (∃ task ∈ tasks, task.1 = nodeId ∧ task.2.msg = (⟨some id, msg⟩ : Outgoing F)) →
        Handled tasks id nodeId msg call) :
    Called ttl ((state, .advance id) :: trace) after := by
  have grown : history (queues ttl) ((state, .advance id) :: trace) =
      history (queues ttl) trace ++
        [(task.nodeId, ⟨⟨some id, task.msg⟩, task.taskId, state.clock, ttl⟩)] := by
    simp [history_cons, queues, here]
  have apart : ∀ other, beyondQueue (state.calls other) = true → other ≠ id := by
    rintro other done rfl
    rw [here] at done
    cases done
  constructor
  · intro before other nodeId msg commandId member
    have earlier : (before, .sendTask other nodeId msg commandId) ∈ trace := by
      simpa using member
    have known := held.handled before other nodeId msg commandId earlier
    rw [grown, calls]
    by_cases own : other = id
    · subst own
      rw [here] at known
      rw [Function.update_self]
      exact handled _ _ _ ⟨_, List.mem_append_right _ List.mem_cons_self, known.1,
        by rw [known.2]⟩
    · rw [Function.update_of_ne own]
      exact known.more
  · intro entry member
    rw [grown] at member
    rw [calls]
    rcases List.mem_append.mp member with earlier | latest
    · obtain ⟨other, from_, done⟩ := held.origins entry earlier
      exact ⟨other, from_, by rw [Function.update_of_ne (apart other done)]; exact done⟩
    · rw [List.mem_singleton.mp latest]
      exact ⟨id, rfl, by rw [Function.update_self]; exact past⟩
  · rw [grown, List.map_append]
    refine List.nodup_append.mpr ⟨held.once, by simp, ?_⟩
    rintro origin among latest member rfl
    obtain ⟨entry, listed, from_⟩ := List.mem_map.mp among
    obtain ⟨other, same, done⟩ := held.origins entry listed
    simp only [List.map_cons, List.map_nil, List.mem_singleton] at member
    rw [← from_, same] at member
    exact apart other done (Option.some.inj member)

theorem called_step (config : BridgeConfig F) {ttl : Nat} {trace : Trace (Bridge F) (Action F)}
    {state after : Bridge F} {action : Action F} (held : Called ttl trace state)
    (moved : Moves config state action after) : Called ttl ((state, action) :: trace) after := by
  cases moved with
  | startTask id nodeId msg commandId here =>
      refine held.moves id _ rfl rfl ?_ (by simp [Handled, here]) (by simp [beyondQueue, here])
      intro before other target sent command member
      rcases List.mem_cons.mp member with latest | earlier
      · cases latest
        refine Or.inr ⟨rfl, fun tasks => ?_⟩
        unfold startSendTask
        split
        · trivial
        · exact ⟨rfl, rfl⟩
      · exact Or.inl earlier
  | startAlert id nodeId alertId status reasons here =>
      refine held.moves id _ rfl rfl ?_ (by simp [Handled, here]) (by simp [beyondQueue, here])
      exact fun _ _ _ _ _ member => Or.inl (by simpa using member)
  | queue id task here | queueReap id task here =>
      exact held.queue here _ rfl rfl fun _ _ _ queued => queued
  | insert id task command here | skipInsert id task here | callReap id task removed here
  | absent id task here | connect id task conn here | alertAbsent id nodeId msg here
  | alertConnect id nodeId msg conn here | deliver id nodeId conn out write here =>
      refine held.moves id _ rfl (by simp [queues, here]) ?_ (by simp [Handled, here])
        (by simp [beyondQueue, here])
      exact fun _ _ _ _ _ member => Or.inl (by simpa using member)
  | _ =>
      refine held.still rfl rfl ?_
      exact fun _ _ _ _ _ member => by simpa using member

theorem called_run (config : BridgeConfig F) (ttl : Nat) {trace : Trace (Bridge F) (Action F)}
    {state : Bridge F} (run : Run (machine config) trace state) : Called ttl trace state := by
  apply run.invariant fun trace state => Called ttl trace state
  · constructor <;> simp [history]
  · intro trace before action after _ held taken
    exact called_step config held (moves_of_step config taken)

theorem entered_run (config : BridgeConfig F) {trace : Trace (Bridge F) (Action F)}
    {state : Bridge F} (run : Run (machine config) trace state) :
    ∃ spec, follow (queueBooks config) (queueBooks config).init (history operations trace) =
        some spec ∧
      Entered config trace state.taskQueue state.clock (history (queues config.taskTtl) trace)
        spec := by
  apply run.simulate fun trace state spec =>
    Entered config trace state.taskQueue state.clock (history (queues config.taskTtl) trace) spec
  · exact ⟨rfl, Nat.le_refl _, rfl, by simp [queueBooks, books]⟩
  · intro trace before action after spec earlier reached held taken
    exact entered_step config (heard_run config earlier) reached held
      (moves_of_step config taken)

/-- No task vanishes. The bridge's queue is that of a ledger of its operations. Every
`send_task` call that has returned without an error has its message in the ledger, no call has
two entries, and each entry is still pending in the queue of its node, in order, or has been
settled by a cause that is found in the run. -/
theorem no_task_vanishes (config : BridgeConfig F) {trace : Trace (Bridge F) (Action F)}
    {state : Bridge F} (run : Run (machine config) trace state) :
    ∃ spec : Books (Outgoing F),
      follow (queueBooks config) (queueBooks config).init (history operations trace) = some spec ∧
      spec.queue = state.taskQueue ∧
      (∀ nodeId, state.taskQueue.pendingFor nodeId =
        (waiting spec.ledger nodeId).map fun entry => entry.task.msg) ∧
      (∀ before id nodeId msg commandId,
        (before, .sendTask id nodeId msg commandId) ∈ trace →
          state.calls id = .returned (.ok ()) →
            ∃ entry ∈ spec.ledger, entry.nodeId = nodeId ∧ entry.task.msg = ⟨some id, msg⟩) ∧
      (spec.ledger.map fun entry => entry.task.msg.origin).Nodup ∧
      ∀ entry ∈ spec.ledger, Explained config trace entry := by
  obtain ⟨spec, done, entered⟩ := entered_run config run
  have called := called_run config config.taskTtl run
  have reached := (Reachable.start (queueBooks config)).followed done
  obtain ⟨balanced, _⟩ := balanced_run reached.choose_spec
  refine ⟨spec, done, entered.queue, fun nodeId => ?_, ?_, ?_, entered.explained⟩
  · unfold TaskQueue.pendingFor
    rw [← entered.queue, balanced.agrees, List.map_map]
    rfl
  · intro before id nodeId msg commandId asked returned
    have handled := called.handled before id nodeId msg commandId asked
    rw [returned] at handled
    obtain ⟨task, member, own, sent⟩ := handled
    rw [← entered.tasks, List.map_map] at member
    obtain ⟨entry, listed, rfl⟩ := List.mem_map.mp member
    exact ⟨entry, listed, own, sent⟩
  · have once := called.once
    rw [← entered.tasks, List.map_map, List.map_map] at once
    exact once

/-- A node accepts the task that a call has sent it. -/
theorem no_task_vanishes_accepted :
    ∃ (trace : Trace (Bridge Float) (Action Float)) (spec : Books (Outgoing Float)),
      spec.ledger.map Entry.fate = [.acked 3] ∧
        (∃ entry ∈ spec.ledger, entry.nodeId = "n" ∧
          entry.task.msg = ⟨some 0, taskMessage "t"⟩) ∧
        ∀ entry ∈ spec.ledger, Explained plainConfig trace entry := by
  obtain ⟨trace, state, run, asked, returned, fates⟩ :
      ∃ (trace : Trace (Bridge Float) (Action Float)) (state : Bridge Float),
        Run (machine plainConfig) trace state ∧
        (∃ before, (before, .sendTask 0 "n" (taskMessage "t") (some "cmd")) ∈ trace) ∧
        state.calls 0 = .returned (.ok ()) ∧
        (follow (queueBooks plainConfig) (queueBooks plainConfig).init
          (history operations trace)).map (fun spec => spec.ledger.map Entry.fate) =
            some [.acked 3] :=
    ⟨_, _, replay_reachable accepted rfl, ⟨_, @List.mem_of_getElem? _ _ 10 _ rfl⟩, rfl, rfl⟩
  obtain ⟨before, asked⟩ := asked
  obtain ⟨spec, done, _, _, queued, _, explained⟩ := no_task_vanishes plainConfig run
  rw [done] at fates
  exact ⟨trace, spec, Option.some.inj fates, queued before 0 "n" _ _ asked returned, explained⟩

end PeatSapient.Bridge
