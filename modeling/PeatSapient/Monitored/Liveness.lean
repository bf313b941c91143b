import PeatSapient.Monitored

/-! Which messages count as a sign of life. The registry is written where the update of a
message is recorded, and only for some updates; the watchdog goes by what was written. -/

namespace PeatSapient.Monitored

open HashMap Mpsc Execution

variable {F : Type} [FloatOps F]

structure Routing (F : Type) where
  bridge : Bridge F
  msg : SapientMessage F
  position : Option (TrackPosition F)

namespace Routing

def result (routing : Routing F) : Except SapientError (SapientUpdate F) :=
  (routeMessage routing.msg routing.position routing.bridge.detectionLimiter
    routing.bridge.clock).1

def refreshes (routing : Routing F) : Bool :=
  match routing.msg.content with
  | some (.registration _) | some (.statusReport _) => true
  | some (.detectionReport report) =>
      (admits routing.bridge.detectionLimiter routing.bridge.clock routing.msg.sender).1 &&
        (fromDetectionReport routing.msg.sender routing.position report).isOk
  | _ => false

theorem registryWrite_result (routing : Routing F) :
    (Bridge.registryWrite routing.result).map Prod.fst =
      if routing.refreshes then some routing.msg.sender else none := by
  rw [result, Bridge.registryWrite_routed]
  unfold refreshes
  cases routing.msg.content with
  | none => rfl
  | some body =>
      cases body with
      | detectionReport report =>
          dsimp only
          split <;> rfl
      | _ => rfl

end Routing

def routesOn (id : ConnId) (entry : Monitored F × MonitoredAction F) : Option (Routing F) :=
  match entry.2 with
  | .bridge (.proceed other) =>
      if other = id then
        match (entry.1.bridge.conns id).stage with
        | .routing msg position => some ⟨entry.1.bridge, msg, position⟩
        | _ => none
      else none
  | _ => none

def routedOn (id : ConnId) (trace : Trace (Monitored F) (MonitoredAction F)) :
    Option (Routing F) :=
  trace.findSome? (routesOn id)

/-- The message that a connection is done with in the registry by its next step: its update
is recorded, or it cannot be routed. -/
def settles (earlier : Trace (Monitored F) (MonitoredAction F)) (before : Bridge F)
    (id : ConnId) : Option (Routing F) :=
  match (before.conns id).stage with
  | .recording _ => routedOn id earlier
  | .routing msg position =>
      if (Routing.result ⟨before, msg, position⟩).isOk then none
      else some ⟨before, msg, position⟩
  | _ => none

def processes (nodeId : String) (earlier : Trace (Monitored F) (MonitoredAction F))
    (before : Monitored F) : MonitoredAction F → Option (Routing F)
  | .bridge (.proceed id) =>
      (settles earlier before.bridge id).filter fun routing =>
        decide ((before.bridge.conns id).registered = some nodeId) &&
          decide (routing.msg.sender = nodeId)
  | _ => none

def processedAt (nodeId : String) : Trace (Monitored F) (MonitoredAction F) → List Nat
  | [] => []
  | (before, action) :: earlier =>
      if (processes nodeId earlier before action).isSome then
        before.bridge.clock :: processedAt nodeId earlier
      else processedAt nodeId earlier

def SeenNow (state : Bridge F) (nodeId : String) : Prop :=
  ∃ node, state.registry.lookup nodeId = some node ∧ node.lastSeen = state.clock

def SignOfLife (nodeId : String) (earlier : Trace (Monitored F) (MonitoredAction F))
    (before : Monitored F) (action : MonitoredAction F) (after : Monitored F) : Prop :=
  (processes nodeId earlier before action).isSome → SeenNow after.bridge nodeId

/-- No scan finds the node expired less than two intervals after one of its messages. -/
def Spared (watch : WatchdogConfig) (nodeId : String)
    (trace : Trace (Monitored F) (MonitoredAction F)) (state : Monitored F) : Prop :=
  ∀ now, state.stage = .scanning now → ∀ time ∈ processedAt nodeId trace,
    now - time < watch.heartbeatInterval * 2 →
      nodeId ∉ Watchdog.expiredIds watch.heartbeatInterval now state.bridge.registry

/-- The message refreshes its sender, or the sender was seen at this instant already. -/
def Refreshes (nodeId : String) (earlier : Trace (Monitored F) (MonitoredAction F))
    (before : Monitored F) (action : MonitoredAction F) : Prop :=
  ∀ routing, processes nodeId earlier before action = some routing →
    routing.refreshes = true ∨ SeenNow before.bridge nodeId

instance decidableSeenNow (state : Bridge F) (nodeId : String) :
    Decidable (SeenNow state nodeId) :=
  inferInstanceAs (Decidable (∃ node ∈ state.registry.lookup nodeId, node.lastSeen = state.clock))

instance decidableRefreshes (nodeId : String) (earlier : Trace (Monitored F) (MonitoredAction F))
    (before : Monitored F) (action : MonitoredAction F) :
    Decidable (Refreshes nodeId earlier before action) :=
  inferInstanceAs (Decidable (∀ routing ∈ processes nodeId earlier before action,
    routing.refreshes = true ∨ SeenNow before.bridge nodeId))

def Recorded (trace : Trace (Monitored F) (MonitoredAction F)) (state : Monitored F) : Prop :=
  ∀ id update, (state.bridge.conns id).stage = .recording update →
    ∃ routing, routedOn id trace = some routing ∧ routing.result = .ok update

/-- An update to be recorded has just been routed, or was there before. -/
theorem recording_step (config : BridgeConfig F) {state after : Bridge F} {action : Action F}
    (moved : Bridge.Moves config state action after) {id : ConnId} {update : SapientUpdate F}
    (recording : (after.conns id).stage = .recording update) :
    (∃ msg position, action = .proceed id ∧ (state.conns id).stage = .routing msg position ∧
        Routing.result ⟨state, msg, position⟩ = .ok update) ∨
      ((state.conns id).stage = .recording update ∧ action ≠ .proceed id) := by
  by_cases acts : Bridge.actor action = some id
  · cases moved with
    | route _ msg position routed limiter here result =>
        cases acts
        simp only [Bridge.setStage, Bridge.setConn, Function.update_self] at recording
        cases recording
        exact Or.inl ⟨msg, position, rfl, here, congrArg Prod.fst result⟩
    | register | acknowledgeRegistration | snapshot | drain | connReap | replayed | replay
    | locate | reject | upsert | ackTask | pass | correlate | emit | disconnect | unregister
    | announce =>
        cases acts
        simp [Bridge.setStage, Bridge.setConn] at recording
    | receive _ msg here =>
        cases acts
        simp only [Bridge.setConn, Function.update_self, Bridge.arrive] at recording
        split at recording <;> cases recording
    | hangUp _ here =>
        cases acts
        simp only [Bridge.setStage, Bridge.setConn, Function.update_self, Bridge.hungUp]
          at recording
        split at recording <;> cases recording
    | _ => cases acts
  · rw [(Bridge.frame_step config moved acts).1] at recording
    exact Or.inr ⟨recording, fun same => acts (by rw [same]; rfl)⟩

theorem recorded_step (config : BridgeConfig F) (watch : WatchdogConfig)
    {trace : Trace (Monitored F) (MonitoredAction F)} {state after : Monitored F}
    {action : MonitoredAction F} (held : Recorded trace state)
    (moved : Moves config watch state action after) :
    Recorded ((state, action) :: trace) after := by
  intro id update recording
  cases moved with
  | watchdog action watchdog own taken => exact held id update recording
  | bridge action bridge moved =>
      rcases recording_step config moved recording with
        ⟨msg, position, rfl, here, result⟩ | ⟨before, other⟩
      · exact ⟨⟨state.bridge, msg, position⟩, by simp [routedOn, routesOn, here], result⟩
      · obtain ⟨routing, routed, result⟩ := held id update before
        have silent : routesOn id (state, .bridge action) = none := by
          unfold routesOn
          split
          · next acting same =>
              cases same
              split
              · next same => exact absurd (by rw [same]) other
              · rfl
          · rfl
        refine ⟨routing, ?_, result⟩
        rw [routedOn, List.findSome?_cons, silent]
        exact routed

theorem recorded (config : BridgeConfig F) (watch : WatchdogConfig)
    {trace : Trace (Monitored F) (MonitoredAction F)} {state : Monitored F}
    (run : Run (machine config watch) trace state) : Recorded trace state := by
  apply run.invariant Recorded
  · intro id update recording
    cases recording
  · intro trace before action after _ held taken
    exact recorded_step config watch held (moves_of_step config watch taken)

omit [FloatOps F] in
theorem seenNow_upsert (state : Bridge F) {after : Bridge F} {nodeId : String}
    {capability : Option (CapabilityAdvertisement F)} (clock : after.clock = state.clock)
    (registry : after.registry = state.registry.upsert state.clock nodeId capability none) :
    SeenNow after nodeId := by
  unfold SeenNow
  rw [registry, clock, NodeRegistry.lookup_upsert, if_pos rfl]
  exact ⟨_, rfl, rfl⟩

theorem seenNow_stale {state after : Bridge F} {routing : Routing F} {nodeId : String}
    (stale : ¬ routing.refreshes = true) (registry : after.registry = state.registry)
    (clock : after.clock = state.clock) :
    SeenNow after nodeId ↔ routing.refreshes = true ∨ SeenNow state nodeId := by
  unfold SeenNow
  rw [registry, clock, or_iff_right stale]

theorem seenNow_settled (config : BridgeConfig F)
    {trace : Trace (Monitored F) (MonitoredAction F)} {state : Monitored F} {after : Bridge F}
    {id : ConnId} {routing : Routing F} (held : Recorded trace state)
    (settled : settles trace state.bridge id = some routing)
    (moved : Bridge.Moves config state.bridge (.proceed id) after) :
    SeenNow after routing.msg.sender ↔
      routing.refreshes = true ∨ SeenNow state.bridge routing.msg.sender := by
  have written := routing.registryWrite_result
  have routed : ∀ update, (state.bridge.conns id).stage = .recording update →
      Bridge.registryWrite routing.result = Bridge.upsertOf update := by
    intro update here
    obtain ⟨other, latest, result⟩ := held id update here
    simp only [settles, here, latest] at settled
    cases settled
    rw [result]
    rfl
  have stale : Bridge.registryWrite routing.result = none → ¬ routing.refreshes = true := by
    intro nothing fresh
    rw [nothing, if_pos fresh] at written
    cases written
  cases moved with
  | upsert _ update nodeId capability here writes =>
      rw [routed update here, writes] at written
      split at written
      · next fresh =>
          obtain rfl := Option.some.inj written
          exact iff_of_true (seenNow_upsert state.bridge rfl rfl) (Or.inl fresh)
      · cases written
  | ackTask _ nodeId taskId command status reasons here free =>
      exact seenNow_stale (stale (routed _ here)) rfl rfl
  | pass _ update here silent other =>
      have nothing := routed update here
      rw [silent] at nothing
      exact seenNow_stale (stale nothing) rfl rfl
  | route _ msg position update limiter here result =>
      have fine : Routing.result ⟨state.bridge, msg, position⟩ = .ok update :=
        congrArg Prod.fst result
      simp [settles, here, fine, Except.isOk, Except.toBool] at settled
  | reject _ msg position failure limiter here result =>
      have fails : Routing.result ⟨state.bridge, msg, position⟩ = .error failure :=
        congrArg Prod.fst result
      simp only [settles, here, fails, Except.isOk, Except.toBool] at settled
      cases settled
      exact seenNow_stale (stale (by rw [fails]; rfl)) rfl rfl
  | _ => simp_all [settles]

theorem signOfLife_step (config : BridgeConfig F) (watch : WatchdogConfig) (nodeId : String)
    {trace : Trace (Monitored F) (MonitoredAction F)} {state after : Monitored F}
    {action : MonitoredAction F} (held : Recorded trace state)
    (moved : Moves config watch state action after) :
    SignOfLife nodeId trace state action after ↔ Refreshes nodeId trace state action := by
  cases moved with
  | watchdog action watchdog own taken => simp [SignOfLife, Refreshes, processes]
  | bridge action bridge moved =>
      cases action with
      | proceed id =>
          cases settled : settles trace state.bridge id with
          | none => simp [SignOfLife, Refreshes, processes, settled]
          | some routing =>
              have outcome := seenNow_settled config held settled moved
              simp only [SignOfLife, Refreshes, processes, settled, Option.filter_some]
              split
              · next mine =>
                  simp only [Bool.and_eq_true, decide_eq_true_eq] at mine
                  obtain ⟨_, rfl⟩ := mine
                  simpa using outcome
              · simp
      | _ => simp [SignOfLife, Refreshes, processes]

theorem proceed_clock (config : BridgeConfig F) {state after : Bridge F} {id : ConnId}
    (moved : Bridge.Moves config state (.proceed id) after) : after.clock = state.clock := by
  cases moved <;> rfl

theorem processes_clock (config : BridgeConfig F) (watch : WatchdogConfig) {nodeId : String}
    {trace : Trace (Monitored F) (MonitoredAction F)} {state after : Monitored F}
    {action : MonitoredAction F} (done : (processes nodeId trace state action).isSome)
    (moved : Moves config watch state action after) :
    after.bridge.clock = state.bridge.clock := by
  cases moved with
  | watchdog => cases done
  | bridge action bridge moved =>
      cases action with
      | proceed id => exact proceed_clock config moved
      | _ => cases done

def UpsertedAt (nodeId : String) (trace : Trace (Monitored F) (MonitoredAction F))
    (time : Nat) : Prop :=
  ∃ entry ∈ projected watchdog seen trace,
    Watchdog.upserts nodeId entry.2 = true ∧ entry.1.clock = time

theorem upserted_of_processed (config : BridgeConfig F) (watch : WatchdogConfig)
    {nodeId : String} {trace : Trace (Monitored F) (MonitoredAction F)} {state : Monitored F}
    (run : Run (machine config watch) trace state)
    (signs : Throughout (SignOfLife nodeId) trace state) :
    ∀ time ∈ processedAt nodeId trace, UpsertedAt nodeId trace time := by
  induction run with
  | start =>
      intro time member
      cases member
  | @next trace before after action earlier taken ih =>
      obtain ⟨sign, rest⟩ := signs
      have older : ∀ time ∈ processedAt nodeId trace,
          UpsertedAt nodeId ((before, action) :: trace) time := by
        intro time member
        obtain ⟨entry, among, upserted⟩ := ih rest time member
        exact ⟨entry, mem_projected_cons among, upserted⟩
      unfold processedAt
      split
      · next done =>
          rw [List.forall_mem_cons]
          refine ⟨?_, older⟩
          obtain ⟨node, found, latest⟩ := sign done
          have clock := processes_clock config watch done (moves_of_step config watch taken)
          have seen := (Watchdog.tracked watch
            (watchdog_run config watch (earlier.next taken))).seen nodeId node found
          rw [latest, clock] at seen
          exact seen
      · exact older

/-- A scan never finds expired a node whose messages are all signs of life, if one of them
was processed less than two intervals before. -/
theorem spared_of_signs (config : BridgeConfig F) (watch : WatchdogConfig)
    {nodeId : String} {trace : Trace (Monitored F) (MonitoredAction F)} {state : Monitored F}
    (run : Run (machine config watch) trace state)
    (signs : Throughout (SignOfLife nodeId) trace state) : Spared watch nodeId trace state := by
  intro now _ time member recent expired
  obtain ⟨node, found, silent⟩ := Watchdog.mem_expiredIds expired
  obtain ⟨entry, among, upserted, rfl⟩ := upserted_of_processed config watch run signs time member
  have seen := (Watchdog.tracked watch (watchdog_run config watch run)).latest nodeId node found
    entry among upserted
  omega

/-- In a run every message of a node, once processed, leaves the node last seen at that time,
and no scan finds it expired within two intervals of such a message, exactly if every message
is one that refreshes it, or comes when it was seen at that instant already. -/
theorem signs_of_life_iff (config : BridgeConfig F) (watch : WatchdogConfig) (nodeId : String)
    {trace : Trace (Monitored F) (MonitoredAction F)} {state : Monitored F}
    (run : Run (machine config watch) trace state) :
    (Throughout (SignOfLife nodeId) trace state ∧ Spared watch nodeId trace state) ↔
      Meets (Refreshes nodeId) trace := by
  have same := run.throughout_iff (SignOfLife nodeId) (Refreshes nodeId)
    fun trace before action after earlier taken =>
      signOfLife_step config watch nodeId (recorded config watch earlier)
        (moves_of_step config watch taken)
  constructor
  · rintro ⟨signs, _⟩
    exact same.mp signs
  · intro refreshed
    have signs := same.mpr refreshed
    exact ⟨signs, spared_of_signs config watch run signs⟩

def report (nodeId : String) (content : Content Float) : SapientMessage Float :=
  { nodeId := some nodeId, content := some content }

def secondMessage (content : Content Float) : List (MonitoredAction Float) :=
  [.watchdog .advance, .watchdog .advance, .bridge (.receive 0 (Bridge.registrationOf "n"))] ++
    List.replicate 8 (.bridge (.proceed 0)) ++
    [.bridge (.tick 9000000000 0), .bridge (.receive 0 (report "n" content))] ++
    List.replicate 4 (.bridge (.proceed 0)) ++
    [.bridge (.tick 1000000000 0), .watchdog .advance]

theorem signs_of_life_iff_status :
    ∃ (trace : Trace (Monitored Float) (MonitoredAction Float)) (state : Monitored Float),
      processedAt "n" trace = [9000000000, 0] ∧ Throughout (SignOfLife "n") trace state ∧
        Spared Watchdog.fiveSeconds "n" trace state := by
  have run : Run (machine Bridge.plainConfig Watchdog.fiveSeconds) _ _ :=
    replay_reachable (secondMessage (.statusReport {})) rfl
  exact ⟨_, _, by decide,
    (signs_of_life_iff Bridge.plainConfig Watchdog.fiveSeconds "n" run).mpr (by decide)⟩

/-- A node that has just raised an alert is found expired. -/
theorem alerting_node_expired :
    ¬ ∀ (trace : Trace (Monitored Float) (MonitoredAction Float)) (state : Monitored Float),
      Run (machine Bridge.plainConfig Watchdog.fiveSeconds) trace state →
        Throughout (SignOfLife "n") trace state ∧
          Spared Watchdog.fiveSeconds "n" trace state := by
  intro signs
  have spared := (signs _ _ (replay_reachable (secondMessage (.alert {})) rfl)).2
  exact spared 10000000000 rfl 9000000000 (by decide) (by decide) (by decide)

end PeatSapient.Monitored
