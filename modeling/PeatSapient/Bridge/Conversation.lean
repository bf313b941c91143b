import PeatSapient.Bridge.Delivery
import PeatSapient.Bridge.Emission

/-! What an application hears of one connection. Whatever the other connections, the calls
and the writers do meanwhile, every message of the connection is answered by one update, in
the order of the messages; only a detection that cannot be mapped goes unanswered. The last
update says that the node is gone, if there was one. -/

namespace PeatSapient.Bridge

open HashMap Mpsc Execution

variable {F : Type}

/-- The command of an acknowledged task is looked up only after the message is routed. -/
def withoutCommand : SapientUpdate F → SapientUpdate F
  | .taskAcknowledged nodeId taskId _ status reasons =>
      .taskAcknowledged nodeId taskId none status reasons
  | update => update

def inHand : Stage F → Option (SapientMessage F)
  | .registering msg | .acking msg | .snapshotting msg | .reaping msg _ | .replaying msg _
  | .locating msg | .routing msg _ => some msg
  | _ => none

def inReply : Stage F → Option (SapientUpdate F)
  | .recording update | .emitting update => some (withoutCommand update)
  | .correlating nodeId taskId status reasons _ =>
      some (.taskAcknowledged nodeId taskId none status reasons)
  | _ => none

def farewell (conn : Connection F) : Option (SapientUpdate F) :=
  match conn.stage with
  | .closed => conn.registered.map .nodeDisconnected
  | _ => none

def spokenIn (conn : ConnId) (attempts : List (Emitted F)) : List (SapientUpdate F) :=
  (attempts.filter fun emitted => emitted.source == conn).map fun emitted =>
    withoutCommand emitted.update

/-- One connection as the application sees it. -/
structure Dialogue (F : Type) where
  spoken : List (SapientUpdate F)
  inHand : Option (SapientMessage F)
  inReply : Option (SapientUpdate F)
  farewell : Option (SapientUpdate F)

def dialogue (state : Bridge F) (conn : ConnId) : Dialogue F where
  spoken := spokenIn conn state.updates.attempts
  inHand := inHand (state.conns conn).stage
  inReply := inReply (state.conns conn).stage
  farewell := farewell (state.conns conn)

def Departs (conn : Connection F) : Prop :=
  match conn.stage with
  | .disconnecting nodeId | .unregistering nodeId | .announcing nodeId =>
      conn.registered = some nodeId
  | _ => True

def unplacedStage : Stage F → Prop
  | .routing _ sensorPosition => sensorPosition = none
  | _ => True

/-- What the dialogues rest on: no sensor has a position, and detections are limited only
where the configuration says so. -/
structure Orderly (config : BridgeConfig F) (state : Bridge F) : Prop where
  unplaced : ∀ nodeId, state.registry.getPosition nodeId = none
  located : ∀ conn, unplacedStage (state.conns conn).stage
  departs : ∀ conn, Departs (state.conns conn)
  limited : config.detectionRateLimit = none → state.detectionLimiter = none

theorem dialogue_setConn (state : Bridge F) (id : ConnId) (changed : Connection F)
    (hand : inHand changed.stage = inHand (state.conns id).stage)
    (reply : inReply changed.stage = inReply (state.conns id).stage)
    (left : farewell changed = farewell (state.conns id)) (conn : ConnId) :
    dialogue (state.setConn id changed) conn = dialogue state conn := by
  by_cases same : conn = id
  · subst same
    simp [dialogue, setConn, hand, reply, left]
  · simp [dialogue, setConn, same]

theorem dialogue_setConn_of_ne (state : Bridge F) {id conn : ConnId} (changed : Connection F)
    (apart : conn ≠ id) : dialogue (state.setConn id changed) conn = dialogue state conn := by
  simp [dialogue, setConn, apart]

theorem spokenIn_send {before after : Channel (Emitted F)} {emitted : Emitted F}
    (sent : before.send emitted = some after) (conn : ConnId) :
    spokenIn conn after.attempts = spokenIn conn before.attempts ++
      if emitted.source = conn then [withoutCommand emitted.update] else [] := by
  rw [Channel.attempts_send sent]
  by_cases own : emitted.source = conn
  · simp [spokenIn, own]
  · simp [spokenIn, own]

theorem Orderly.setConn {config : BridgeConfig F} {state : Bridge F}
    (held : Orderly config state) (id : ConnId) (changed : Connection F)
    (located : unplacedStage changed.stage) (departs : Departs changed) :
    Orderly config (state.setConn id changed) where
  unplaced := held.unplaced
  located := by
    intro conn
    by_cases same : conn = id
    · subst same
      simpa [Bridge.setConn] using located
    · simpa [Bridge.setConn, same] using held.located conn
  departs := by
    intro conn
    by_cases same : conn = id
    · subst same
      simpa [Bridge.setConn] using departs
    · simpa [Bridge.setConn, same] using held.departs conn
  limited := held.limited

theorem Orderly.congr {config : BridgeConfig F} {before after : Bridge F}
    (held : Orderly config before) (registry : after.registry = before.registry)
    (conns : after.conns = before.conns)
    (limiter : after.detectionLimiter = before.detectionLimiter) : Orderly config after where
  unplaced := by
    rw [registry]
    exact held.unplaced
  located := by
    rw [conns]
    exact held.located
  departs := by
    rw [conns]
    exact held.departs
  limited := by
    rw [limiter]
    exact held.limited

variable [FloatOps F]

/-- The update of a message of a sensor whose position is not known. Where detections are
limited any one may be held back, and one that cannot be mapped has none. -/
inductive Answers (config : BridgeConfig F) :
    SapientMessage F → Option (SapientUpdate F) → Prop where
  | routed {msg : SapientMessage F} {update : SapientUpdate F}
      (made : (routeMessage msg none none 0).1 = .ok update) : Answers config msg (some update)
  | unmapped {msg : SapientMessage F} {failure : SapientError}
      (failed : (routeMessage msg none none 0).1 = .error failure) : Answers config msg none
  | limited {msg : SapientMessage F} {report : DetectionReport F}
      (detection : msg.content = some (.detectionReport report))
      (limits : config.detectionRateLimit ≠ none) :
      Answers config msg (some (.ignored ("detection rate-limited for node " ++ msg.sender)))

inductive Conversed (config : BridgeConfig F) :
    List (SapientMessage F) → List (SapientUpdate F) → Prop where
  | start : Conversed config [] []
  | next {heard : List (SapientMessage F)} {said : List (SapientUpdate F)}
      {msg : SapientMessage F} {answer : Option (SapientUpdate F)}
      (earlier : Conversed config heard said) (answers : Answers config msg answer) :
      Conversed config (heard ++ [msg]) (said ++ answer.toList)

inductive Talks (config : BridgeConfig F) (registered : Option String) :
    Option (SapientMessage F) → Dialogue F → Dialogue F → Prop where
  | silent (now : Dialogue F) : Talks config registered none now now
  | hears (spoken : List (SapientUpdate F)) (msg : SapientMessage F) :
      Talks config registered (some msg) ⟨spoken, none, none, none⟩
        ⟨spoken, some msg, none, none⟩
  | answers (spoken : List (SapientUpdate F)) {msg : SapientMessage F}
      {answer : Option (SapientUpdate F)} (found : Answers config msg answer) :
      Talks config registered none ⟨spoken, some msg, none, none⟩ ⟨spoken, none, answer, none⟩
  | speaks (spoken : List (SapientUpdate F)) (update : SapientUpdate F) :
      Talks config registered none ⟨spoken, none, some update, none⟩
        ⟨spoken ++ [update], none, none, none⟩
  | leaves (spoken : List (SapientUpdate F)) {nodeId : String}
      (was : registered = some nodeId) :
      Talks config registered none ⟨spoken, none, none, none⟩
        ⟨spoken ++ [.nodeDisconnected nodeId], none, none, some (.nodeDisconnected nodeId)⟩

theorem orderly_step (config : BridgeConfig F) {state after : Bridge F} {action : Action F}
    (held : Orderly config state) (moved : Moves config state action after) :
    Orderly config after := by
  cases moved with
  | upsert id update nodeId capability here writes =>
      have written : Orderly config { state with
          registry := state.registry.upsert state.clock nodeId capability none } :=
        ⟨getPosition_upsert held.unplaced _ _ _, held.located, held.departs, held.limited⟩
      exact written.setConn id _ trivial trivial
  | unregister id nodeId here =>
      have removed : Orderly config { state with registry := state.registry.remove nodeId } :=
        ⟨getPosition_remove held.unplaced _, held.located, held.departs, held.limited⟩
      have departs := held.departs id
      simp only [Departs, here] at departs
      exact removed.setConn id _ trivial departs
  | locate id msg here =>
      exact held.setConn id _ (held.unplaced msg.sender) trivial
  | route id msg position update limiter here routed
  | reject id msg position failure limiter here routed =>
      have checked : Orderly config { state with detectionLimiter := limiter } := by
        refine ⟨held.unplaced, held.located, held.departs, fun unlimited => ?_⟩
        rw [held.limited unlimited, routeMessage_unlimited] at routed
        exact (congrArg Prod.snd routed).symm
      exact checked.setConn id _ trivial trivial
  | hangUp id here =>
      unfold hungUp
      cases named : (state.conns id).registered with
      | none => exact held.setConn id _ trivial trivial
      | some nodeId => exact held.setConn id _ trivial named
  | disconnect id nodeId here =>
      have departs := held.departs id
      simp only [Departs, here] at departs
      apply Orderly.setConn
      · exact held.congr rfl rfl rfl
      · trivial
      · exact departs
  | receive id msg here =>
      unfold arrive
      split <;> exact held.setConn id _ trivial trivial
  | deliver id nodeId conn out write here sent =>
      have pushed := held.setConn conn { state.conns conn with write := write }
        (held.located conn) (held.departs conn)
      exact pushed.congr rfl rfl rfl
  | writerTakes id | writerWrote id | writerFailed id =>
      exact held.setConn id _ (held.located id) (held.departs id)
  | register id | acknowledgeRegistration id | snapshot id | drain id | connReap id
  | replayed id | replay id | ackTask id | pass id | correlate id | emit id | announce id =>
      apply Orderly.setConn
      · exact held.congr rfl rfl rfl
      · trivial
      · trivial
  | _ => exact held.congr rfl rfl rfl

theorem orderly (config : BridgeConfig F) {state : Bridge F}
    (reached : Reachable (machine config) state) : Orderly config state := by
  apply reached.invariant
  · refine ⟨fun _ => rfl, fun _ => trivial, fun _ => trivial, fun unlimited => ?_⟩
    simp [machine, new, unlimited]
  · intro before action after _ held taken
    exact orderly_step config held (moves_of_step config taken)

theorem withoutCommand_routed {msg : SapientMessage F} {position : Option (TrackPosition F)}
    {limiter after : Option (DetectionLimiter F)} {now : Nat} {update : SapientUpdate F}
    (routed : routeMessage msg position limiter now = (.ok update, after)) :
    withoutCommand update = update := by
  unfold routeMessage at routed
  split at routed
  · cases routed
    rfl
  · cases routed
    rfl
  · dsimp only at routed
    split at routed
    · split at routed <;> cases routed
      rfl
    · cases routed
      rfl
  all_goals
    cases routed
    rfl

/-- What the limiter lets through is routed as without one. -/
theorem answers_of_routed (config : BridgeConfig F) {msg : SapientMessage F}
    {limiter after : Option (DetectionLimiter F)} {now : Nat}
    {result : Except SapientError (SapientUpdate F)}
    (limits : config.detectionRateLimit = none → limiter = none)
    (routed : routeMessage msg none limiter now = (result, after)) :
    Answers config msg (result.toOption) := by
  have unlimited : routeMessage msg none none 0 = (result, none) →
      Answers config msg result.toOption := by
    intro same
    cases result with
    | ok update => exact .routed (congrArg Prod.fst same)
    | error failure => exact .unmapped (congrArg Prod.fst same)
  cases content : msg.content with
  | none =>
      apply unlimited
      simp only [routeMessage, content] at routed ⊢
      cases routed
      rfl
  | some body =>
      cases body with
      | detectionReport report =>
          simp only [routeMessage, content] at routed
          split at routed
          · apply unlimited
            simp only [routeMessage, content, admits, if_true]
            split at routed <;> cases routed <;> simp_all
          · next held =>
              cases routed
              apply Answers.limited content
              intro none_
              simp [limits none_, admits] at held
      | _ =>
          apply unlimited
          simp only [routeMessage, content] at routed ⊢
          cases routed
          rfl

theorem Talks.of_eq {config : BridgeConfig F} {registered : Option String}
    {now later : Dialogue F} (same : later = now) : Talks config registered none now later := by
  rw [same]
  exact .silent _

theorem talks_conn (config : BridgeConfig F) {state after : Bridge F} {id : ConnId}
    (held : Orderly config state) (moved : Moves config state (.proceed id) after)
    (conn : ConnId) :
    Talks config (state.conns conn).registered none (dialogue state conn)
      (dialogue after conn) := by
  cases moved with
  | register id msg here
  | acknowledgeRegistration id msg write here
  | snapshot id msg here
  | drain id msg here
  | connReap id msg expired here
  | replayed id msg here
  | replay id msg out rest write here
  | locate id msg here
  | upsert id update nodeId capability here
  | ackTask id nodeId taskId command status reasons here
  | pass id update here
  | correlate id nodeId taskId status reasons cleared here
  | disconnect id nodeId here
  | unregister id nodeId here =>
      apply Talks.of_eq
      apply dialogue_setConn
      · simp [here, inHand]
      · simp [here, inReply, withoutCommand]
      · simp [here, farewell]
  | route id msg position update limiter here routed =>
      by_cases same : conn = id
      · subst same
        have unplaced : position = none := by
          have located := held.located conn
          simpa only [unplacedStage, here] using located
        subst unplaced
        have answers := answers_of_routed config held.limited routed
        rw [← withoutCommand_routed routed] at answers
        simp only [dialogue, setStage, setConn, Function.update_self, here, inHand,
          inReply, farewell]
        exact .answers _ answers
      · exact Talks.of_eq (dialogue_setConn_of_ne { state with detectionLimiter := limiter } _ same)
  | reject id msg position failure limiter here routed =>
      by_cases same : conn = id
      · subst same
        have unplaced : position = none := by
          have located := held.located conn
          simpa only [unplacedStage, here] using located
        subst unplaced
        simp only [dialogue, setStage, setConn, Function.update_self, here, inHand,
          inReply, farewell]
        exact .answers _ (answers_of_routed config held.limited routed)
      · exact Talks.of_eq (dialogue_setConn_of_ne { state with detectionLimiter := limiter } _ same)
  | emit id update updates here sent =>
      by_cases same : conn = id
      · subst same
        simp only [dialogue, setStage, setConn, Function.update_self, here, inHand,
          inReply, farewell, spokenIn_send sent, if_true]
        exact .speaks _ _
      · apply Talks.of_eq
        simp [dialogue, setStage, setConn, same, spokenIn_send sent, Ne.symm same]
  | announce id nodeId updates here sent =>
      by_cases same : conn = id
      · subst same
        have departs := held.departs conn
        simp only [Departs, here] at departs
        simp only [dialogue, setStage, setConn, Function.update_self, here, inHand,
          inReply, farewell, spokenIn_send sent, if_true, departs, Option.map_some,
          withoutCommand]
        exact .leaves _ rfl
      · apply Talks.of_eq
        simp [dialogue, setStage, setConn, same, spokenIn_send sent, Ne.symm same]

theorem talks_step (config : BridgeConfig F) {state after : Bridge F} {action : Action F}
    (held : Orderly config state) (moved : Moves config state action after) (conn : ConnId) :
    Talks config (state.conns conn).registered (receives conn (state, action))
      (dialogue state conn) (dialogue after conn) := by
  have whole := moved
  cases moved with
  | register | acknowledgeRegistration | snapshot | drain | connReap | replayed | replay
  | locate | route | reject | upsert | ackTask | pass | correlate | emit | disconnect
  | unregister | announce =>
      exact talks_conn config held whole conn
  | tick | startTask | startAlert | insert | skipInsert | queue | queueReap | callReap | absent
  | connect | alertAbsent | alertConnect | dropReceiver =>
      exact .silent _
  | consume emitted updates taken =>
      apply Talks.of_eq
      simp only [dialogue, Channel.attempts_recv taken]
  | deliver id nodeId target out write here sent =>
      apply Talks.of_eq
      exact dialogue_setConn state target { state.conns target with write := write } rfl rfl
        rfl conn
  | writerTakes id
  | writerWrote id
  | writerFailed id =>
      apply Talks.of_eq
      apply dialogue_setConn <;> rfl
  | receive id msg here =>
      by_cases same : conn = id
      · subst same
        simp only [receives, if_true]
        have arrived : dialogue (state.setConn conn (state.arrive conn msg)) conn =
            ⟨spokenIn conn state.updates.attempts, some msg, none, none⟩ := by
          unfold arrive
          split <;> simp [dialogue, setConn, inHand, inReply, farewell]
        rw [arrived]
        simp only [dialogue, here, inHand, inReply, farewell]
        exact .hears _ msg
      · simp only [receives, if_neg (Ne.symm same)]
        exact Talks.of_eq (dialogue_setConn_of_ne state _ same)
  | hangUp id here =>
      apply Talks.of_eq
      apply dialogue_setConn
      all_goals
        unfold hungUp
        split <;> simp_all [inHand, inReply, farewell]

/-- What has been said so far answers what has been heard so far. -/
def Told (config : BridgeConfig F) (received : List (SapientMessage F)) (now : Dialogue F) :
    Prop :=
  ∃ heard said, received = heard ++ now.inHand.toList ∧ Conversed config heard said ∧
    now.spoken ++ now.inReply.toList = said ++ now.farewell.toList

theorem Told.talks {config : BridgeConfig F} {registered : Option String}
    {received : List (SapientMessage F)} {arrived : Option (SapientMessage F)}
    {now later : Dialogue F} (told : Told config received now)
    (talks : Talks config registered arrived now later) :
    Told config (received ++ arrived.toList) later := by
  obtain ⟨heard, said, hearing, answered, saying⟩ := told
  cases talks with
  | silent => exact ⟨heard, said, by simpa using hearing, answered, saying⟩
  | hears spoken msg =>
      refine ⟨heard, said, ?_, answered, saying⟩
      simpa using hearing
  | answers spoken found =>
      refine ⟨_, _, ?_, answered.next found, ?_⟩
      · simpa using hearing
      · simpa using saying
  | speaks spoken update =>
      refine ⟨heard, said, by simpa using hearing, answered, ?_⟩
      simpa using saying
  | leaves spoken was =>
      refine ⟨heard, said, by simpa using hearing, answered, ?_⟩
      simpa using saying

theorem told_run (config : BridgeConfig F) {trace : Trace (Bridge F) (Action F)}
    {state : Bridge F} (run : Run (machine config) trace state) (conn : ConnId) :
    Told config (receivedOn conn trace) (dialogue state conn) := by
  induction run with
  | start => exact ⟨[], [], rfl, .start, rfl⟩
  | next earlier taken ih =>
      have held := orderly config ⟨_, earlier⟩
      rw [receivedOn_cons]
      exact ih.talks (talks_step config held (moves_of_step config taken) conn)

/-- Only a message can register a connection, and only the first Registration does. -/
theorem registered_talks (config : BridgeConfig F) {state after : Bridge F}
    {action : Action F} (moved : Moves config state action after) (conn : ConnId) :
    (after.conns conn).registered = (state.conns conn).registered.or
      (((receives conn (state, action)).filter isRegistration).map SapientMessage.sender) := by
  cases moved with
  | receive id msg here =>
      by_cases same : conn = id
      · subst same
        cases first : isRegistration msg with
        | true =>
            cases named : (state.conns conn).registered <;>
              simp [receives, setConn, arrive, first, named, Option.filter]
        | false => simp [receives, setConn, arrive, first, Option.filter]
      · simp [receives, setConn, same, Ne.symm same]
  | deliver id nodeId target out write here sent =>
      by_cases same : conn = target
      · subst same
        simp [receives, setCall, setWrite, setConn]
      · simp [receives, setCall, setWrite, setConn, same]
  | writerTakes id | writerWrote id | writerFailed id
  | register id | acknowledgeRegistration id | snapshot id | drain id | connReap id
  | replayed id | replay id | locate id | route id | reject id | upsert id | ackTask id
  | pass id | correlate id | emit id | disconnect id | unregister id | announce id
  | hangUp id =>
      by_cases same : conn = id
      · subst same
        simp [receives, setStage, setConn]
      · simp [receives, setStage, setConn, same]
  | _ => simp [receives, setCall]

theorem registered_run (config : BridgeConfig F) {trace : Trace (Bridge F) (Action F)}
    {state : Bridge F} (run : Run (machine config) trace state) (conn : ConnId) :
    (state.conns conn).registered =
      ((receivedOn conn trace).find? isRegistration).map SapientMessage.sender := by
  induction run with
  | start => rfl
  | next earlier taken ih =>
      rw [registered_talks config (moves_of_step config taken) conn, ih, receivedOn_cons,
        List.find?_append]
      cases (receivedOn conn _).find? isRegistration with
      | some first => rfl
      | none =>
          simp only [Option.map_none, Option.none_or]
          cases receives conn _ with
          | none => rfl
          | some msg => cases first : isRegistration msg <;> simp [Option.filter, first]

/-- In every run and on every connection: the updates emitted so far, with the one that is
under way, are the answers to the messages received so far, but for the one in hand, in
their order; after the last comes the farewell of the node that registered first, and
nothing comes after that. -/
theorem conversation (config : BridgeConfig F) {trace : Trace (Bridge F) (Action F)}
    {state : Bridge F} (run : Run (machine config) trace state) (conn : ConnId) :
    Told config (receivedOn conn trace) (dialogue state conn) ∧
      (state.conns conn).registered =
        ((receivedOn conn trace).find? isRegistration).map SapientMessage.sender :=
  ⟨told_run config run conn, registered_run config run conn⟩

/-- The node hangs up, and is said to be gone after all that it had to say. -/
theorem conversation_registerThenTask :
    ∃ (trace : Trace (Bridge Float) (Action Float)) (state : Bridge Float) (said : _),
      receivedOn 0 trace = [registrationOf "n"] ∧ (state.conns 0).registered = some "n" ∧
        Conversed plainConfig [registrationOf "n"] said ∧
          spokenIn 0 state.updates.attempts = said ++ [.nodeDisconnected "n"] := by
  obtain ⟨trace, state, run, given, now⟩ :
      ∃ (trace : Trace (Bridge Float) (Action Float)) (state : Bridge Float),
        Run (machine plainConfig) trace state ∧ receivedOn 0 trace = [registrationOf "n"] ∧
          dialogue state 0 =
            ⟨spokenIn 0 state.updates.attempts, none, none, some (.nodeDisconnected "n")⟩ :=
    ⟨_, _, replay_reachable (registerThenTask ++ .hangUp 0 :: List.replicate 3 (.proceed 0)) rfl,
      rfl, rfl⟩
  obtain ⟨⟨heard, said, received, conversed, spoken⟩, registered⟩ :=
    conversation plainConfig run 0
  simp only [given, now, Option.toList, List.append_nil] at received spoken registered
  subst received
  exact ⟨trace, state, said, given, registered, conversed, spoken⟩

end PeatSapient.Bridge
