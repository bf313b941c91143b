import PeatSapient.Watchdog

/-! Which nodes the watchdog takes. Its decision is made on a scan and carried out
later, one id after the other; it is still right when it is carried out unless an
upsert has refreshed an id that the round had yet to take. -/

namespace PeatSapient.Watchdog

open HashMap Mpsc Execution

variable {F : Type}

def upserts (nodeId : String) : WatchdogAction F → Bool
  | .upsert other _ _ => other == nodeId
  | _ => false

def SilentSince (config : WatchdogConfig) (nodeId : String)
    (trace : Trace (Watchdog F) (WatchdogAction F)) (clock : Nat) : Prop :=
  ∀ entry ∈ trace, upserts nodeId entry.2 = true →
    entry.1.clock + config.heartbeatInterval * 2 ≤ clock

/-- An upsert refreshes a node that the running round has still to take. -/
def refreshesOutstanding (state : Watchdog F) : WatchdogAction F → Bool
  | .upsert nodeId _ _ => decide (nodeId ∈ outstanding state)
  | _ => false

/-- What holds in every run: an entry was last seen at the latest upsert of its id,
and the clock does not go back. -/
structure Tracked (config : WatchdogConfig) (trace : Trace (Watchdog F) (WatchdogAction F))
    (state : Watchdog F) : Prop where
  seen : ∀ nodeId node, state.registry.lookup nodeId = some node →
    ∃ entry ∈ trace, upserts nodeId entry.2 = true ∧ entry.1.clock = node.lastSeen
  latest : ∀ nodeId node, state.registry.lookup nodeId = some node →
    ∀ entry ∈ trace, upserts nodeId entry.2 = true → entry.1.clock ≤ node.lastSeen
  past : ∀ entry ∈ trace, entry.1.clock ≤ state.clock
  scanned : ∀ now, state.stage = .scanning now → now ≤ state.clock
  positive : state.stage = .starting ∨ state.stage = .ended ∨ 0 < config.heartbeatInterval

theorem Tracked.quiet {config : WatchdogConfig}
    {trace : Trace (Watchdog F) (WatchdogAction F)} {state after : Watchdog F}
    {action : WatchdogAction F} (tracked : Tracked config trace state)
    (silent : ∀ nodeId, upserts nodeId action = false)
    (kept : ∀ nodeId node, after.registry.lookup nodeId = some node →
      state.registry.lookup nodeId = some node)
    (later : state.clock ≤ after.clock)
    (scanned : ∀ now, after.stage = .scanning now → now ≤ after.clock)
    (positive : after.stage = .starting ∨ after.stage = .ended ∨
      0 < config.heartbeatInterval) : Tracked config ((state, action) :: trace) after where
  seen := by
    intro nodeId node found
    obtain ⟨entry, member, upserted, same⟩ := tracked.seen nodeId node (kept _ _ found)
    exact ⟨entry, List.mem_cons_of_mem _ member, upserted, same⟩
  latest := by
    intro nodeId node found entry member upserted
    rcases List.mem_cons.mp member with rfl | older
    · rw [silent nodeId] at upserted
      cases upserted
    · exact tracked.latest nodeId node (kept _ _ found) entry older upserted
  past := by
    intro entry member
    rcases List.mem_cons.mp member with rfl | older
    · exact later
    · exact Nat.le_trans (tracked.past entry older) later
  scanned := scanned
  positive := positive

theorem Tracked.upsert {config : WatchdogConfig}
    {trace : Trace (Watchdog F) (WatchdogAction F)} {state : Watchdog F}
    (tracked : Tracked config trace state) (nodeId : String)
    (capability : Option (CapabilityAdvertisement F)) (position : Option (TrackPosition F)) :
    Tracked config ((state, .upsert nodeId capability position) :: trace)
      { state with
        registry := state.registry.upsert state.clock nodeId capability position } where
  seen := by
    intro other node found
    rw [NodeRegistry.lookup_upsert] at found
    split at found
    · next same =>
        cases found
        exact ⟨_, List.mem_cons_self, by simp [upserts, same], rfl⟩
    · next different =>
        obtain ⟨entry, member, upserted, same⟩ := tracked.seen other node found
        exact ⟨entry, List.mem_cons_of_mem _ member, upserted, same⟩
  latest := by
    intro other node found entry member upserted
    rw [NodeRegistry.lookup_upsert] at found
    split at found
    · next same =>
        cases found
        rcases List.mem_cons.mp member with rfl | older
        · exact Nat.le_refl _
        · exact tracked.past entry older
    · next different =>
        rcases List.mem_cons.mp member with rfl | older
        · have same : nodeId = other := by simpa [upserts] using upserted
          exact absurd same.symm different
        · exact tracked.latest other node found entry older upserted
  past := by
    intro entry member
    rcases List.mem_cons.mp member with rfl | older
    · exact Nat.le_refl _
    · exact tracked.past entry older
  scanned := tracked.scanned
  positive := tracked.positive

theorem Tracked.remove {config : WatchdogConfig}
    {trace : Trace (Watchdog F) (WatchdogAction F)} {state after : Watchdog F}
    {action : WatchdogAction F} (tracked : Tracked config trace state) (nodeId : String)
    (silent : ∀ nodeId, upserts nodeId action = false)
    (registry : after.registry = state.registry.remove nodeId)
    (clock : after.clock = state.clock)
    (scanned : ∀ now, after.stage = .scanning now → now ≤ after.clock)
    (positive : after.stage = .starting ∨ after.stage = .ended ∨
      0 < config.heartbeatInterval) : Tracked config ((state, action) :: trace) after := by
  refine tracked.quiet silent (fun other node found => ?_) (Nat.le_of_eq clock.symm)
    scanned positive
  rw [registry, NodeRegistry.lookup_remove] at found
  split at found
  · cases found
  · exact found

theorem tracked_step (config : WatchdogConfig)
    {trace : Trace (Watchdog F) (WatchdogAction F)} {state after : Watchdog F}
    {action : WatchdogAction F} (tracked : Tracked config trace state)
    (moved : Moves config state action after) :
    Tracked config ((state, action) :: trace) after := by
  -- Past its first stage the watchdog has checked that the interval is not zero.
  have running : ∀ stage, state.stage = stage → stage ≠ .starting → stage ≠ .ended →
      0 < config.heartbeatInterval := by
    rintro stage rfl started alive
    exact (tracked.positive.resolve_left started).resolve_left alive
  cases moved with
  | upsert nodeId capability position => exact tracked.upsert nodeId capability position
  | elapse duration =>
      refine tracked.quiet (fun _ => rfl) (fun _ _ found => found) (Nat.le_add_right _ _)
        (fun now here => ?_) tracked.positive
      exact Nat.le_trans (tracked.scanned now here) (Nat.le_add_right _ _)
  | remove nodeId =>
      exact tracked.remove nodeId (fun _ => rfl) rfl rfl tracked.scanned tracked.positive
  | expire nodeId rest here =>
      exact tracked.remove nodeId (fun _ => rfl) rfl rfl (by simp)
        (Or.inr (Or.inr (running _ here (by simp) (by simp))))
  | sendUpdate | consume | dropReceiver =>
      exact tracked.quiet (fun _ => rfl) (fun _ _ found => found) (Nat.le_refl _)
        tracked.scanned tracked.positive
  | start positive here =>
      exact tracked.quiet (fun _ => rfl) (fun _ _ found => found) (Nat.le_refl _)
        (by simp) (Or.inr (Or.inr positive))
  | stop | shutDown =>
      exact tracked.quiet (fun _ => rfl) (fun _ _ found => found) (Nat.le_refl _)
        (by simp [setStage]) (Or.inr (Or.inl rfl))
  | tick here due =>
      exact tracked.quiet (fun _ => rfl) (fun _ _ found => found) (Nat.le_refl _)
        (by simp) (Or.inr (Or.inr (running _ here (by simp) (by simp))))
  | burn here | scan _ _ here | finish here | report _ _ _ here =>
      exact tracked.quiet (fun _ => rfl) (fun _ _ found => found) (Nat.le_refl _)
        (by simp [setStage]) (Or.inr (Or.inr (running _ here (by simp) (by simp))))

theorem tracked (config : WatchdogConfig) {trace : Trace (Watchdog F) (WatchdogAction F)}
    {state : Watchdog F} (run : Run (machine config) trace state) :
    Tracked config trace state := by
  refine run.invariant (Tracked config) ?_ ?_
  · refine ⟨?_, ?_, ?_, ?_, Or.inl rfl⟩
    · intro nodeId node found
      cases found
    · intro nodeId node found
      cases found
    · simp
    · intro now here
      cases here
  · intro trace before action after _ held taken
    exact tracked_step config held (moves_of_step config taken)

theorem SilentSince.next {config : WatchdogConfig} {nodeId : String}
    {trace : Trace (Watchdog F) (WatchdogAction F)} {state after : Watchdog F}
    {action : WatchdogAction F} (silent : SilentSince config nodeId trace state.clock)
    (later : state.clock ≤ after.clock) (other : upserts nodeId action = false) :
    SilentSince config nodeId ((state, action) :: trace) after.clock := by
  intro entry member upserted
  rcases List.mem_cons.mp member with rfl | older
  · rw [other] at upserted
    cases upserted
  · exact Nat.le_trans (silent entry older upserted) later

theorem silent_of_expired {config : WatchdogConfig}
    {trace : Trace (Watchdog F) (WatchdogAction F)} {state : Watchdog F} {now : Nat}
    {nodeId : String} (tracked : Tracked config trace state)
    (here : state.stage = .scanning now)
    (expired : nodeId ∈ expiredIds config.heartbeatInterval now state.registry) :
    SilentSince config nodeId trace state.clock := by
  obtain ⟨node, found, old⟩ := mem_expiredIds expired
  have positive : 0 < config.heartbeatInterval := by
    rcases tracked.positive with starting | ended | positive
    · rw [here] at starting
      cases starting
    · rw [here] at ended
      cases ended
    · exact positive
  intro entry member upserted
  have seen := tracked.latest nodeId node found entry member upserted
  -- The scan's `now` is no later than the clock, and the node was seen two intervals
  -- before it.
  have present := tracked.scanned now here
  omega

theorem outstanding_updates {state : Watchdog F} {updates : Channel (SapientUpdate F)}
    {nodeId : String} (stays : state.updates.closed = true → updates.closed = true)
    (waits : nodeId ∈ outstanding { state with updates := updates }) :
    nodeId ∈ outstanding state := by
  unfold outstanding at waits ⊢
  -- A closed channel ends the round at the next report, so only the node already
  -- being removed is left.
  cases gone : state.updates.closed with
  | true =>
      rw [gone] at stays
      simpa [stays rfl] using waits
  | false =>
      cases here : state.stage with
      | removing expired =>
          rw [here] at waits
          cases expired with
          | nil => cases waits
          | cons head rest =>
              cases closes : updates.closed with
              | true => exact List.mem_cons.mpr (Or.inl (by simpa [closes] using waits))
              | false => simpa [closes] using waits
      | reporting head rest =>
          rw [here] at waits
          cases closes : updates.closed with
          | true => simp [closes] at waits
          | false => simpa [closes] using waits
      | _ => simp [here] at waits

/-- A round never takes on a node but at its scan. -/
theorem outstanding_step (config : WatchdogConfig) {state after : Watchdog F}
    {action : WatchdogAction F} (moved : Moves config state action after)
    {nodeId : String} (waits : nodeId ∈ outstanding after) :
    nodeId ∈ outstanding state ∨
      ∃ order now, action = .scan order ∧ state.stage = .scanning now ∧
        nodeId ∈ expiredIds config.heartbeatInterval now state.registry := by
  cases moved with
  | elapse | upsert | remove => exact Or.inl waits
  | sendUpdate update updates sent =>
      exact Or.inl (outstanding_updates (fun gone => (Channel.closed_send sent).trans gone) waits)
  | consume update updates taken =>
      exact Or.inl (outstanding_updates (fun gone => (Channel.closed_recv taken).trans gone) waits)
  | dropReceiver => exact Or.inl (outstanding_updates (fun _ => rfl) waits)
  | scan order now here found =>
      -- Whatever the order in which the map was enumerated, these are the expired ids.
      have member : nodeId ∈ order := by
        cases order with
        | nil => cases waits
        | cons head rest =>
            simp only [outstanding, setStage] at waits
            cases gone : state.updates.closed with
            | true =>
                have first : nodeId = head := by simpa [gone] using waits
                exact List.mem_cons.mpr (Or.inl first)
            | false => simpa [gone] using waits
      exact Or.inr ⟨order, now, rfl, here, found.mem_iff.mp member⟩
  | expire head rest here =>
      left
      simp only [outstanding, here] at waits ⊢
      cases gone : state.updates.closed with
      | true => simp [gone] at waits
      | false => simpa [gone] using waits
  | report head rest updates here alive sent =>
      left
      have alive' : updates.closed = false := (Channel.closed_send sent).trans alive
      simp only [outstanding, here, alive, Bool.false_eq_true, if_false]
      cases rest with
      | nil => cases waits
      | cons next_ later => simpa [outstanding, alive'] using Or.inr waits
  | start | stop | burn | tick | finish | shutDown => cases waits

/-- In a run where nothing refreshes an outstanding node, every outstanding node has
been silent for two intervals. -/
theorem outstanding_silent (config : WatchdogConfig)
    {trace : Trace (Watchdog F) (WatchdogAction F)} {state : Watchdog F}
    (run : Run (machine config) trace state)
    (calm : Meets (fun _ state action => refreshesOutstanding state action = false) trace) :
    ∀ nodeId ∈ outstanding state, SilentSince config nodeId trace state.clock := by
  refine run.invariant_of_meets _ (fun trace state => ∀ nodeId ∈ outstanding state,
    SilentSince config nodeId trace state.clock) ?_ ?_ calm
  · intro nodeId waits
    cases waits
  · intro trace before action after earlier held spares taken nodeId waits
    have moved := moves_of_step config taken
    have later : before.clock ≤ after.clock :=
      (tracked_step config (tracked config earlier) moved).past _ List.mem_cons_self
    -- Either the node was in the round before this step, which does not upsert it, or
    -- this step is the scan that found it expired.
    rcases outstanding_step config moved waits with waited | ⟨order, now, rfl, here, expired⟩
    · apply (held nodeId waited).next later
      cases action with
      | upsert other capability position =>
          by_contra same
          simp only [upserts, Bool.not_eq_false, beq_iff_eq] at same
          subst same
          simp [refreshesOutstanding, waited] at spares
      | _ => rfl
    · exact (silent_of_expired (tracked config earlier) here expired).next later rfl

/-- The watchdog takes silent nodes only: in a run where no upsert refreshes a node that
the running round has still to take, a node is removed or reported only when two
intervals have passed since its last upsert. -/
theorem fresh_nodes_spared (config : WatchdogConfig)
    {trace : Trace (Watchdog F) (WatchdogAction F)} {state : Watchdog F}
    (run : Run (machine config) trace state)
    (calm : Meets (fun _ state action => refreshesOutstanding state action = false) trace)
    (nodeId : String) :
    (removes state = some nodeId →
      SilentSince config nodeId trace state.clock ∧
        ∀ node, state.registry.lookup nodeId = some node →
          node.lastSeen + config.heartbeatInterval * 2 ≤ state.clock) ∧
      (reports state = some nodeId → SilentSince config nodeId trace state.clock) := by
  have silent := outstanding_silent config run calm nodeId
  constructor
  · intro next_
    have waits : nodeId ∈ outstanding state := by
      unfold removes at next_
      unfold outstanding
      split at next_
      · next head rest here =>
          cases next_
          cases gone : state.updates.closed <;> simp [here]
      · cases next_
    refine ⟨silent waits, fun node found => ?_⟩
    obtain ⟨entry, member, upserted, same⟩ := (tracked config run).seen nodeId node found
    rw [← same]
    exact silent waits entry member upserted
  · intro next_
    apply silent
    unfold reports at next_
    unfold outstanding
    split at next_
    · next head rest here =>
        split at next_
        · cases next_
        · next alive =>
            cases next_
            simp [here, alive]
    · cases next_

def fiveSeconds : WatchdogConfig := ⟨5000000000, 16⟩

def untilScan : List (WatchdogAction Float) :=
  [.advance, .advance, .upsert "n" none none, .elapse 10000000000, .advance, .scan ["n"]]

theorem fresh_nodes_spared_silentNode :
    ∃ state : Watchdog Float, removes state = some "n" ∧
      ∀ node, state.registry.lookup "n" = some node →
        node.lastSeen + fiveSeconds.heartbeatInterval * 2 ≤ state.clock := by
  have spared := (fresh_nodes_spared fiveSeconds
    (replay_reachable untilScan rfl) (by decide) "n").1
      (by decide)
  exact ⟨_, by decide, spared.2⟩

/-- A heartbeat between the scan and the removal does not save the node. -/
theorem fresh_node_taken :
    ¬ ∀ (trace : Trace (Watchdog Float) (WatchdogAction Float)) (state : Watchdog Float),
      Run (machine fiveSeconds) trace state → ∀ nodeId,
        (removes state = some nodeId →
          SilentSince fiveSeconds nodeId trace state.clock ∧
            ∀ node, state.registry.lookup nodeId = some node →
              node.lastSeen + fiveSeconds.heartbeatInterval * 2 ≤ state.clock) ∧
          (reports state = some nodeId → SilentSince fiveSeconds nodeId trace state.clock) := by
  intro spared
  have silent := ((spared _ _ (replay_reachable
    (untilScan ++ [.upsert "n" none none]) rfl) "n").1 rfl).1
  have latest := silent _ List.mem_cons_self rfl
  revert latest
  decide

end PeatSapient.Watchdog
