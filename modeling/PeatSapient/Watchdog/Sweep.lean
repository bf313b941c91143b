import PeatSapient.Watchdog.Freshness

/-! What a round of the watchdog leaves behind. A scan takes every node that is expired at
its instant, and the round removes what the scan took. So a node that is registered while
the watchdog is idle was seen within three intervals. -/

namespace PeatSapient.Watchdog

open HashMap Mpsc Execution

variable {F : Type}

def scannedAt (entry : Watchdog F × WatchdogAction F) : Option Nat :=
  match entry.2, entry.1.stage with
  | .scan _, .scanning now => some now
  | _, _ => none

def lastScan (trace : Trace (Watchdog F) (WatchdogAction F)) : Option Nat :=
  trace.findSome? scannedAt

def pending : WatchdogStage → List String
  | .removing ids => ids
  | .reporting _ rest => rest
  | _ => []

def isSweeping : WatchdogStage → Bool
  | .waiting | .removing _ | .reporting _ _ => true
  | _ => false

def isEarly : WatchdogStage → Bool
  | .starting | .burning => true
  | _ => false

theorem lastScan_cons (entry : Watchdog F × WatchdogAction F)
    (trace : Trace (Watchdog F) (WatchdogAction F)) :
    lastScan (entry :: trace) = (scannedAt entry).or (lastScan trace) := by
  simp only [lastScan, List.findSome?_cons]
  cases scannedAt entry <;> rfl

theorem expired_of_silent {interval now : Nat} {registry : NodeRegistry F} {nodeId : String}
    {node : ConnectedNode F} (registered : registry.lookup nodeId = some node)
    (silent : interval * 2 ≤ now - node.lastSeen) :
    nodeId ∈ expiredIds interval now registry := by
  simp only [expiredIds, List.mem_map, List.mem_filter, decide_eq_true_eq]
  exact ⟨⟨nodeId, node⟩, ⟨(entry_iff_lookup registry nodeId node).mpr registered, silent⟩, rfl⟩

/-- What holds of the newest scan in every run. -/
structure Swept (config : WatchdogConfig) (trace : Trace (Watchdog F) (WatchdogAction F))
    (state : Watchdog F) : Prop where
  early : isEarly state.stage = true → lastScan trace = none
  past : ∀ now, lastScan trace = some now → now ≤ state.clock
  taken : ∀ now, lastScan trace = some now → state.stage ≠ .ended →
    ∀ nodeId node, state.registry.lookup nodeId = some node → nodeId ∉ pending state.stage →
      now < node.lastSeen + config.heartbeatInterval * 2
  schedule : ∀ now, lastScan trace = some now → isSweeping state.stage = true →
    state.nextTick ≤ now + config.heartbeatInterval
  scanning : ∀ now, state.stage = .scanning now →
    now ≤ state.clock ∧ state.nextTick ≤ now + config.heartbeatInterval

theorem Swept.quiet {config : WatchdogConfig} {trace : Trace (Watchdog F) (WatchdogAction F)}
    {state after : Watchdog F} {action : WatchdogAction F} (swept : Swept config trace state)
    (unscanned : scannedAt (state, action) = none) (stage : after.stage = state.stage)
    (tick : after.nextTick = state.nextTick) (later : state.clock ≤ after.clock)
    (kept : ∀ nodeId node, after.registry.lookup nodeId = some node →
      state.registry.lookup nodeId = some node ∨ node.lastSeen = state.clock)
    (positive : isEarly state.stage = false → state.stage ≠ .ended →
      0 < config.heartbeatInterval) : Swept config ((state, action) :: trace) after := by
  have same : lastScan ((state, action) :: trace) = lastScan trace := by
    rw [lastScan_cons, unscanned, Option.none_or]
  constructor
  case early =>
    rw [same, stage]
    exact swept.early
  case past =>
    intro now scanned
    rw [same] at scanned
    exact Nat.le_trans (swept.past now scanned) later
  case taken =>
    rw [same, stage]
    intro now scanned running nodeId node registered cleared
    rcases kept nodeId node registered with before | seen
    · exact swept.taken now scanned running nodeId node before cleared
    · have before := swept.past now scanned
      have late : isEarly state.stage = false := by
        cases given : isEarly state.stage with
        | false => rfl
        | true => simp [swept.early given] at scanned
      have interval := positive late running
      omega
  case schedule =>
    rw [same, stage, tick]
    exact swept.schedule
  case scanning =>
    rw [stage, tick]
    intro now here
    obtain ⟨before, due⟩ := swept.scanning now here
    exact ⟨Nat.le_trans before later, due⟩

theorem Swept.advance {config : WatchdogConfig}
    {trace : Trace (Watchdog F) (WatchdogAction F)} {state after : Watchdog F}
    (swept : Swept config trace state) (clock : after.clock = state.clock)
    (early : isEarly after.stage = true → isEarly state.stage = true)
    (taken : isEarly state.stage = false → after.stage ≠ .ended →
      state.stage ≠ .ended ∧ ∀ nodeId node, after.registry.lookup nodeId = some node →
        nodeId ∉ pending after.stage →
          state.registry.lookup nodeId = some node ∧ nodeId ∉ pending state.stage)
    (schedule : isEarly state.stage = false → isSweeping after.stage = true →
      isSweeping state.stage = true ∧ after.nextTick = state.nextTick)
    (scanning : ∀ now, after.stage = .scanning now →
      now = state.clock ∧ after.nextTick ≤ now + config.heartbeatInterval) :
    Swept config ((state, .advance) :: trace) after := by
  have late : ∀ now, lastScan trace = some now → isEarly state.stage = false := by
    intro now scanned
    cases given : isEarly state.stage with
    | false => rfl
    | true => simp [swept.early given] at scanned
  have same : lastScan ((state, .advance) :: trace) = lastScan trace := by
    rw [lastScan_cons, scannedAt, Option.none_or]
  constructor
  case early =>
    rw [same]
    exact fun first => swept.early (early first)
  case past =>
    rw [same, clock]
    exact swept.past
  case taken =>
    rw [same]
    intro now scanned running nodeId node registered cleared
    obtain ⟨before, earlier⟩ := taken (late now scanned) running
    obtain ⟨registered, cleared⟩ := earlier nodeId node registered cleared
    exact swept.taken now scanned before nodeId node registered cleared
  case schedule =>
    rw [same]
    intro now scanned sweeping
    obtain ⟨before, tick⟩ := schedule (late now scanned) sweeping
    rw [tick]
    exact swept.schedule now scanned before
  case scanning =>
    intro now here
    obtain ⟨current, due⟩ := scanning now here
    rw [clock]
    exact ⟨Nat.le_of_eq current, due⟩

/-- The scan itself: what it leaves out is not expired at its instant. -/
theorem Swept.scan {config : WatchdogConfig} {trace : Trace (Watchdog F) (WatchdogAction F)}
    {state : Watchdog F} (swept : Swept config trace state) {order : List String} {now : Nat}
    (here : state.stage = .scanning now)
    (found : order.Perm (expiredIds config.heartbeatInterval now state.registry)) :
    Swept config ((state, .scan order) :: trace) (state.setStage (.removing order)) := by
  obtain ⟨past, due⟩ := swept.scanning now here
  have newest : lastScan ((state, .scan order) :: trace) = some now := by
    rw [lastScan_cons, scannedAt, here, Option.some_or]
  constructor
  case early =>
    intro first
    cases first
  case past =>
    intro scanned same
    rw [newest] at same
    cases same
    exact past
  case taken =>
    intro scanned same _ nodeId node registered cleared
    rw [newest] at same
    cases same
    by_contra silent
    have expired : nodeId ∈ expiredIds config.heartbeatInterval now state.registry :=
      expired_of_silent registered (by omega)
    exact cleared (found.mem_iff.mpr expired)
  case schedule =>
    intro scanned same _
    rw [newest] at same
    cases same
    exact due
  case scanning =>
    intro instant away
    cases away

theorem swept_step (config : WatchdogConfig)
    {trace : Trace (Watchdog F) (WatchdogAction F)} {state after : Watchdog F}
    {action : WatchdogAction F} (known : Tracked config trace state)
    (swept : Swept config trace state) (moved : Moves config state action after) :
    Swept config ((state, action) :: trace) after := by
  have positive : isEarly state.stage = false → state.stage ≠ .ended →
      0 < config.heartbeatInterval := by
    intro late running
    rcases known.positive with first | last | positive
    · simp [first, isEarly] at late
    · exact absurd last running
    · exact positive
  cases moved with
  | elapse duration =>
      exact swept.quiet rfl rfl rfl (Nat.le_add_right _ _) (fun _ _ => Or.inl) positive
  | sendUpdate | consume | dropReceiver =>
      exact swept.quiet rfl rfl rfl (Nat.le_refl _) (fun _ _ => Or.inl) positive
  | upsert nodeId capability position =>
      apply swept.quiet
      case kept =>
        intro other node registered
        rw [NodeRegistry.lookup_upsert] at registered
        split at registered
        · right
          cases registered
          rfl
        · exact Or.inl registered
      case positive => exact positive
      all_goals rfl
  | remove nodeId =>
      apply swept.quiet
      case kept =>
        intro other node registered
        rw [NodeRegistry.lookup_remove] at registered
        split at registered
        · cases registered
        · exact Or.inl registered
      case positive => exact positive
      all_goals rfl
  | scan order now here found =>
      exact swept.scan here found
  | start _ here | burn here =>
      apply swept.advance <;> simp [here, isEarly]
  | stop | shutDown => apply swept.advance <;> simp [setStage, isEarly, isSweeping]
  | tick here due =>
      apply swept.advance <;> simp [here, isEarly, isSweeping, pending]
      omega
  | finish here =>
      apply swept.advance <;> simp [here, setStage, isEarly, isSweeping, pending]
  | report nodeId rest updates here =>
      apply swept.advance <;> simp [here, isEarly, isSweeping, pending]
      exact fun _ _ registered cleared => ⟨registered, cleared⟩
  | expire nodeId rest here =>
      apply swept.advance <;> simp [here, isEarly, isSweeping, pending, NodeRegistry.lookup_remove]
      exact fun _ _ other registered cleared => ⟨registered, other, cleared⟩

theorem swept (config : WatchdogConfig) {trace : Trace (Watchdog F) (WatchdogAction F)}
    {state : Watchdog F} (run : Run (machine config) trace state) :
    Swept config trace state := by
  apply run.invariant (Swept config)
  · constructor <;> simp [lastScan, machine]
  · intro trace before action after earlier held taken
    exact swept_step config (tracked config earlier) held (moves_of_step config taken)

/-- A node of the registry, while the watchdog waits for a tick that is not due. -/
structure IdleWith (trace : Trace (Watchdog F) (WatchdogAction F)) (state : Watchdog F)
    (nodeId : String) (node : ConnectedNode F) : Prop where
  waiting : state.stage = .waiting
  notDue : state.clock < state.nextTick
  scanned : (lastScan trace).isSome = true
  registered : state.registry.lookup nodeId = some node

theorem idle_recent (config : WatchdogConfig)
    {trace : Trace (Watchdog F) (WatchdogAction F)} {state : Watchdog F}
    (run : Run (machine config) trace state) {nodeId : String} {node : ConnectedNode F}
    (idle : IdleWith trace state nodeId node) :
    state.clock + 2 ≤ node.lastSeen + config.heartbeatInterval * 3 := by
  have held := swept config run
  obtain ⟨now, scanned⟩ := Option.isSome_iff_exists.mp idle.scanned
  have due := held.schedule now scanned (by rw [idle.waiting]; rfl)
  have recent := held.taken now scanned (by simp [idle.waiting]) nodeId node idle.registered
    (by simp [idle.waiting, pending])
  have early := idle.notDue
  omega

theorem quiet_round (config : WatchdogConfig) {trace : Trace (Watchdog F) (WatchdogAction F)}
    {state : Watchdog F} (run : Run (machine config) trace state)
    (waiting : state.stage = .waiting) (due : state.nextTick ≤ state.clock)
    (small : config.heartbeatInterval * 2 < durationLimit)
    (young : ∀ nodeId node, state.registry.lookup nodeId = some node →
      state.clock - node.lastSeen < config.heartbeatInterval * 2) :
    ∃ later, Run (machine config) later
        { state with nextTick := state.nextTick + config.heartbeatInterval } ∧
      lastScan later = some state.clock := by
  have found : expiredIds config.heartbeatInterval state.clock state.registry = [] := by
    rw [List.eq_nil_iff_forall_not_mem]
    intro nodeId expired
    obtain ⟨node, registered, silent⟩ := mem_expiredIds expired
    exact absurd (young nodeId node registered) (by omega)
  let scanning : Watchdog F := { state with
    nextTick := state.nextTick + config.heartbeatInterval
    stage := .scanning state.clock }
  let finishing := scanning.setStage (.removing [])
  have ticked : Run (machine config) ((state, .advance) :: trace) scanning := by
    apply run.next
    simp [machine, step, stepWatchdog, waiting, due, small, scanning]
  have scanned : Run (machine config)
      ((scanning, .scan []) :: (state, .advance) :: trace) finishing := by
    apply ticked.next
    simp [machine, step, found, scanning, finishing]
  have finished : Run (machine config)
      ((finishing, .advance) :: (scanning, .scan []) :: (state, .advance) :: trace)
      { state with nextTick := state.nextTick + config.heartbeatInterval } := by
    apply scanned.next
    simp [machine, step, stepWatchdog, setStage, waiting, scanning, finishing]
  exact ⟨_, finished, rfl⟩

def oneReport : NodeRegistry F := (∅ : NodeRegistry F).upsert 1 "n" none none

theorem seen_oneReport {nodeId : String} {node : ConnectedNode F}
    (registered : (oneReport : NodeRegistry F).lookup nodeId = some node) : node.lastSeen = 1 := by
  rw [oneReport, NodeRegistry.lookup_upsert] at registered
  split at registered <;> cases registered
  rfl

theorem run_elapse {config : WatchdogConfig} {trace : Trace (Watchdog F) (WatchdogAction F)}
    {state : Watchdog F} (run : Run (machine config) trace state) (duration : Nat) :
    Run (machine config) ((state, .elapse duration) :: trace)
      { state with clock := state.clock + duration } := run.next rfl

theorem oneReport_run (config : WatchdogConfig) (positive : 0 < config.heartbeatInterval) :
    ∃ trace, Run (machine (F := F) config) trace
      ⟨1, oneReport, channel config.channelDepth, config.heartbeatInterval, .waiting⟩ := by
  let starting : Watchdog F := ⟨0, ∅, channel config.channelDepth, 0, .starting⟩
  let burning := starting.setStage .burning
  let waiting : Watchdog F :=
    { starting with nextTick := config.heartbeatInterval, stage := .waiting }
  have started : Run (machine config) [(starting, .advance)] burning := by
    apply Run.start.next
    simp [machine, step, stepWatchdog, setStage, Nat.ne_of_gt positive, starting, burning]
  have burnt : Run (machine config) [(burning, .advance), (starting, .advance)] waiting := by
    apply started.next
    simp [machine, step, stepWatchdog, setStage, starting, burning, waiting]
  have later : Run (machine config)
      [(waiting, .elapse 1), (burning, .advance), (starting, .advance)]
      { waiting with clock := 1 } := run_elapse burnt 1
  have told : Run (machine config)
      [({ waiting with clock := 1 }, .upsert "n" none none), (waiting, .elapse 1),
        (burning, .advance), (starting, .advance)]
      { waiting with clock := 1, registry := oneReport } := by
    apply later.next
    rfl
  exact ⟨_, told⟩

/-- A node that reports one instant after the watchdog has started is just too young for the
second scan. -/
theorem idle_latest (config : WatchdogConfig) (positive : 0 < config.heartbeatInterval)
    (small : config.heartbeatInterval * 2 < durationLimit) :
    ∃ (trace : Trace (Watchdog F) (WatchdogAction F)) (state : Watchdog F) (nodeId : String)
      (node : ConnectedNode F), Run (machine config) trace state ∧
        IdleWith trace state nodeId node ∧
          state.clock + 2 = node.lastSeen + config.heartbeatInterval * 3 := by
  obtain ⟨interval, depth⟩ := config
  have interval_pos : 0 < interval := positive
  have young : ∀ clock, clock < 1 + interval * 2 → ∀ nodeId node,
      (oneReport : NodeRegistry F).lookup nodeId = some node →
        clock - node.lastSeen < interval * 2 := by
    intro clock early nodeId node registered
    rw [seen_oneReport registered]
    omega
  obtain ⟨_, told⟩ := oneReport_run (F := F) ⟨interval, depth⟩ interval_pos
  obtain ⟨_, first, _⟩ := quiet_round _ (run_elapse told (interval - 1)) rfl
    (by simp only; omega) small (young _ (by simp only; omega))
  obtain ⟨later, second, scanned⟩ := quiet_round _ (run_elapse first interval) rfl
    (by simp only; omega) small (young _ (by simp only; omega))
  refine ⟨_, _, "n", _, run_elapse second (interval - 1), ⟨rfl, ?_, ?_, rfl⟩, ?_⟩
  · simp only
    omega
  · rw [lastScan_cons]
    change (lastScan later).isSome = true
    rw [scanned]
    rfl
  · simp only
    omega

/-- How old the registry gets. In every run a node that is registered while the watchdog is
idle was seen at most three intervals less two nanoseconds ago; and in some run one was seen
exactly then. -/
theorem idle_within_three (config : WatchdogConfig) :
    (∀ (trace : Trace (Watchdog F) (WatchdogAction F)) (state : Watchdog F) (nodeId : String)
        (node : ConnectedNode F), Run (machine config) trace state →
      IdleWith trace state nodeId node →
        state.clock + 2 ≤ node.lastSeen + config.heartbeatInterval * 3) ∧
    (0 < config.heartbeatInterval → config.heartbeatInterval * 2 < durationLimit →
      ∃ (trace : Trace (Watchdog F) (WatchdogAction F)) (state : Watchdog F) (nodeId : String)
        (node : ConnectedNode F), Run (machine config) trace state ∧
          IdleWith trace state nodeId node ∧
            state.clock + 2 = node.lastSeen + config.heartbeatInterval * 3) := by
  constructor
  · intro trace state nodeId node run idle
    exact idle_recent config run idle
  · exact idle_latest config

/-- Five seconds between scans: the oldest registered node was seen two nanoseconds short of
fifteen seconds ago. -/
theorem idle_within_three_fiveSeconds :
    ∃ (trace : Trace (Watchdog Float) (WatchdogAction Float)) (state : Watchdog Float)
      (nodeId : String) (node : ConnectedNode Float), IdleWith trace state nodeId node ∧
        state.clock + 2 = node.lastSeen + 15000000000 ∧
          state.clock + 2 ≤ node.lastSeen + fiveSeconds.heartbeatInterval * 3 := by
  have both := idle_within_three (F := Float) fiveSeconds
  obtain ⟨trace, state, nodeId, node, run, idle, age⟩ := both.2 (by decide) (by decide)
  exact ⟨trace, state, nodeId, node, idle, age, both.1 trace state nodeId node run idle⟩

end PeatSapient.Watchdog
