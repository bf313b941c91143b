import PeatSapient.Watchdog.Sweep

/-! What the watchdog tells of its removals. Each is reported once and in order; the same
node is removed again only after it has come back. -/

namespace PeatSapient.Watchdog

open HashMap Mpsc Execution

variable {F : Type}

def removedOf (entry : Watchdog F × WatchdogAction F) : Option String :=
  match entry.2 with
  | .advance => removes entry.1
  | _ => none

def inHand : WatchdogStage → Option String
  | .reporting nodeId _ => some nodeId
  | _ => none

def reportedOf (entry : Watchdog F × WatchdogAction F) : Option String :=
  match entry.2 with
  | .advance => inHand entry.1.stage
  | _ => none

def postedOf (entry : Watchdog F × WatchdogAction F) : Option (SapientUpdate F) :=
  match entry.2 with
  | .sendUpdate update => some update
  | _ => (reportedOf entry).map .nodeDisconnected

def refusedOf (entry : Watchdog F × WatchdogAction F) : Option (SapientUpdate F) :=
  if entry.1.updates.closed then postedOf entry else none

def unheardOf (entry : Watchdog F × WatchdogAction F) : Option String :=
  if entry.1.updates.closed then reportedOf entry else none

section Histories

variable (trace : Trace (Watchdog F) (WatchdogAction F))

def removed : List String := history (fun entry => (removedOf entry).toList) trace

def reported : List String := history (fun entry => (reportedOf entry).toList) trace

def posted : List (SapientUpdate F) := history (fun entry => (postedOf entry).toList) trace

def refusals : List (SapientUpdate F) := history (fun entry => (refusedOf entry).toList) trace

def unheard : List String := history (fun entry => (unheardOf entry).toList) trace

end Histories

/-- The watchdog has removed the node, and nothing has upserted it since. -/
def gone (nodeId : String) : Trace (Watchdog F) (WatchdogAction F) → Bool
  | [] => false
  | entry :: earlier =>
      (removedOf entry == some nodeId) || (!upserts nodeId entry.2 && gone nodeId earlier)

theorem expiredIds_nodup (interval now : Nat) (registry : NodeRegistry F) :
    (expiredIds interval now registry).Nodup := by
  have keys : (registry.entries.map Sigma.fst).Nodup := registry.nodupKeys
  exact keys.sublist (List.filter_sublist.map Sigma.fst)

structure Told (trace : Trace (Watchdog F) (WatchdogAction F)) (state : Watchdog F) : Prop where
  attempts : state.updates.attempts = posted trace
  refused : state.updates.refused = refusals trace
  told : removed trace = reported trace ++ (inHand state.stage).toList
  heard : (unheard trace).length ≤ if state.stage = .ended then 1 else 0
  once : (pending state.stage).Nodup
  absent : ∀ nodeId, gone nodeId trace = true →
    state.registry.lookup nodeId = none ∧ nodeId ∉ pending state.stage

theorem gone_cons (nodeId : String) (entry : Watchdog F × WatchdogAction F)
    (trace : Trace (Watchdog F) (WatchdogAction F)) :
    gone nodeId (entry :: trace) = true ↔ removedOf entry = some nodeId ∨
      upserts nodeId entry.2 = false ∧ gone nodeId trace = true := by
  simp [gone]

theorem Told.quiet {trace : Trace (Watchdog F) (WatchdogAction F)} {state after : Watchdog F}
    {action : WatchdogAction F} (told : Told trace state)
    (removal : removedOf (state, action) = none) (report : reportedOf (state, action) = none)
    (attempts : after.updates.attempts =
      state.updates.attempts ++ (postedOf (state, action)).toList)
    (refused : after.updates.refused =
      state.updates.refused ++ (refusedOf (state, action)).toList)
    (hand : inHand after.stage = inHand state.stage)
    (ending : state.stage = .ended → after.stage = .ended)
    (once : (pending state.stage).Nodup → (pending after.stage).Nodup)
    (absent : ∀ nodeId, upserts nodeId action = false → state.registry.lookup nodeId = none →
      nodeId ∉ pending state.stage →
        after.registry.lookup nodeId = none ∧ nodeId ∉ pending after.stage) :
    Told ((state, action) :: trace) after := by
  have noneLost : unheardOf (state, action) = none := by simp [unheardOf, report]
  constructor
  case attempts => rw [attempts, told.attempts, posted, posted, history_cons]
  case refused => rw [refused, told.refused, refusals, refusals, history_cons]
  case told =>
    rw [removed, reported, history_cons, history_cons, removal, report, hand]
    simpa [removed, reported] using told.told
  case heard =>
    rw [unheard, history_cons, noneLost, Option.toList_none, List.append_nil]
    have before := told.heard
    by_cases done : state.stage = .ended
    · simpa [done, ending done, unheard] using before
    · rw [if_neg done] at before
      exact Nat.le_trans before (Nat.zero_le _)
  case once => exact once told.once
  case absent =>
    intro nodeId since
    rcases (gone_cons nodeId _ trace).mp since with now | ⟨unseen, earlier⟩
    · rw [removal] at now
      cases now
    · obtain ⟨unregistered, cleared⟩ := told.absent nodeId earlier
      exact absent nodeId unseen unregistered cleared

theorem Told.beside {trace : Trace (Watchdog F) (WatchdogAction F)} {state after : Watchdog F}
    {action : WatchdogAction F} (told : Told trace state)
    (removal : removedOf (state, action) = none) (report : reportedOf (state, action) = none)
    (attempts : after.updates.attempts =
      state.updates.attempts ++ (postedOf (state, action)).toList)
    (refused : after.updates.refused =
      state.updates.refused ++ (refusedOf (state, action)).toList)
    (stage : after.stage = state.stage)
    (absent : ∀ nodeId, upserts nodeId action = false → state.registry.lookup nodeId = none →
      after.registry.lookup nodeId = none) : Told ((state, action) :: trace) after := by
  apply told.quiet removal report attempts refused <;> rw [stage]
  · exact id
  · exact id
  · exact fun nodeId unseen unregistered cleared =>
      ⟨absent nodeId unseen unregistered, cleared⟩

theorem Told.expire {trace : Trace (Watchdog F) (WatchdogAction F)} {state : Watchdog F}
    {nodeId : String} {rest : List String} (told : Told trace state)
    (here : state.stage = .removing (nodeId :: rest)) :
    Told ((state, .advance) :: trace)
      { state with
        registry := state.registry.remove nodeId
        stage := .reporting nodeId rest } := by
  have removal : removedOf (state, .advance) = some nodeId := by simp [removedOf, removes, here]
  have report : reportedOf (state, .advance) = none := by simp [reportedOf, inHand, here]
  have distinct := told.once
  rw [here, pending, List.nodup_cons] at distinct
  constructor
  case attempts => simpa [posted, history_cons, postedOf, report] using told.attempts
  case refused =>
    simpa [refusals, history_cons, refusedOf, postedOf, report] using told.refused
  case told =>
    have before := told.told
    rw [here] at before
    simp only [removed, reported, history_cons, removal, report] at before ⊢
    simp [before, inHand]
  case heard => simpa [unheard, history_cons, unheardOf, report, here] using told.heard
  case once => exact distinct.2
  case absent =>
    intro other since
    rw [NodeRegistry.lookup_remove]
    rcases (gone_cons other _ trace).mp since with now | ⟨_, earlier⟩
    · rw [removal] at now
      cases now
      exact ⟨if_pos rfl, distinct.1⟩
    · obtain ⟨unregistered, cleared⟩ := told.absent other earlier
      rw [here] at cleared
      simp only [pending, List.mem_cons, not_or] at cleared
      exact ⟨by rw [if_neg cleared.1]; exact unregistered, cleared.2⟩

/-- The report of a node in hand, taken by the channel or refused. -/
theorem Told.report {trace : Trace (Watchdog F) (WatchdogAction F)} {state after : Watchdog F}
    {nodeId : String} {rest : List String} (told : Told trace state)
    (here : state.stage = .reporting nodeId rest)
    (sent : state.updates.send (.nodeDisconnected nodeId) = some after.updates)
    (registry : after.registry = state.registry)
    (stage : after.stage = if state.updates.closed then .ended else .removing rest) :
    Told ((state, .advance) :: trace) after := by
  have removal : removedOf (state, .advance) = none := by simp [removedOf, removes, here]
  have report : reportedOf (state, .advance) = some nodeId := by
    simp [reportedOf, inHand, here]
  have before := told.heard
  have cleared := told.once
  have kept := told.absent
  rw [here] at before cleared kept
  constructor
  case attempts =>
    rw [Channel.attempts_send sent, told.attempts]
    simp [posted, history_cons, postedOf, report]
  case refused =>
    rw [Channel.refused_send sent, told.refused]
    simp only [refusals, history_cons, refusedOf, postedOf, report]
    split <;> simp
  case told =>
    have earlier := told.told
    rw [here] at earlier
    simp only [removed, reported, history_cons, removal, report] at earlier ⊢
    rw [stage]
    split <;> simp [earlier, inHand]
  case heard =>
    simp only [unheard, history_cons, unheardOf, report, stage] at before ⊢
    cases state.updates.closed <;> simp_all
  case once =>
    rw [stage]
    split
    · exact List.nodup_nil
    · exact cleared
  case absent =>
    intro other since
    rcases (gone_cons other _ trace).mp since with now | ⟨_, earlier⟩
    · rw [removal] at now
      cases now
    · obtain ⟨unregistered, absent⟩ := kept other earlier
      rw [registry, stage]
      refine ⟨unregistered, ?_⟩
      split
      · exact List.not_mem_nil
      · exact absent

theorem told_step (config : WatchdogConfig) {trace : Trace (Watchdog F) (WatchdogAction F)}
    {state after : Watchdog F} {action : WatchdogAction F} (told : Told trace state)
    (moved : Moves config state action after) : Told ((state, action) :: trace) after := by
  cases moved with
  | elapse duration =>
      apply told.beside
      case absent => exact fun _ _ unregistered => unregistered
      case attempts => exact (List.append_nil _).symm
      case refused => simp [refusedOf, postedOf, reportedOf]
      all_goals rfl
  | upsert nodeId capability position =>
      apply told.beside
      case absent =>
        intro other unseen unregistered
        have different : other ≠ nodeId := by
          rintro rfl
          simp [upserts] at unseen
        rw [NodeRegistry.lookup_upsert, if_neg different]
        exact unregistered
      case attempts => exact (List.append_nil _).symm
      case refused => simp [refusedOf, postedOf, reportedOf]
      all_goals rfl
  | remove nodeId =>
      apply told.beside
      case absent =>
        intro other _ unregistered
        rw [NodeRegistry.lookup_remove]
        split
        · rfl
        · exact unregistered
      case attempts => exact (List.append_nil _).symm
      case refused => simp [refusedOf, postedOf, reportedOf]
      all_goals rfl
  | sendUpdate update updates sent =>
      apply told.beside
      case absent => exact fun _ _ unregistered => unregistered
      case attempts => exact Channel.attempts_send sent
      case refused =>
        rw [Channel.refused_send sent]
        simp only [refusedOf, postedOf]
        split <;> rfl
      all_goals rfl
  | consume update updates taken =>
      apply told.beside
      case absent => exact fun _ _ unregistered => unregistered
      case attempts => simpa [postedOf, reportedOf] using Channel.attempts_recv taken
      case refused => simpa [refusedOf, postedOf, reportedOf] using Channel.refused_recv taken
      all_goals rfl
  | dropReceiver =>
      apply told.beside
      case absent => exact fun _ _ unregistered => unregistered
      case attempts => exact (List.append_nil _).symm
      case refused =>
        simp [refusedOf, postedOf, reportedOf]
        rfl
      all_goals rfl
  | scan order now here found =>
      apply told.quiet rfl rfl (List.append_nil _).symm
      · simp [setStage, refusedOf, postedOf, reportedOf]
      · simp [here, setStage, inHand]
      · simp [here]
      · intro _
        exact found.nodup_iff.mpr (expiredIds_nodup _ _ _)
      · intro nodeId _ unregistered _
        refine ⟨unregistered, ?_⟩
        intro listed
        obtain ⟨node, registered, _⟩ := mem_expiredIds (found.mem_iff.mp listed)
        rw [unregistered] at registered
        cases registered
  | start _ here | burn here | tick here =>
      apply told.quiet <;>
        simp [removedOf, removes, reportedOf, inHand, postedOf, refusedOf, pending, here]
  | finish here =>
      apply told.quiet <;>
        simp [removedOf, removes, reportedOf, inHand, postedOf, refusedOf, pending, setStage, here]
  | stop stage =>
      rcases stage with here | here <;> apply told.quiet <;>
        simp [removedOf, removes, reportedOf, inHand, postedOf, refusedOf, pending, setStage, here]
  | expire nodeId rest here => exact told.expire here
  | report nodeId rest updates here alive sent =>
      exact told.report here sent rfl (by simp [alive])
  | shutDown nodeId rest updates here gone sent =>
      exact told.report here sent rfl (by simp [gone])

theorem told (config : WatchdogConfig) {trace : Trace (Watchdog F) (WatchdogAction F)}
    {state : Watchdog F} (run : Run (machine config) trace state) : Told trace state := by
  apply run.invariant Told
  · constructor <;>
      simp [posted, refusals, removed, reported, unheard, history, machine, inHand, pending,
        gone]
    all_goals rfl
  · intro trace before action after _ held taken
    exact told_step config held (moves_of_step config taken)

/-- A node is removed only while it has not been removed already. -/
def RemovesPresent (earlier : Trace (Watchdog F) (WatchdogAction F)) (state : Watchdog F)
    (action : WatchdogAction F) : Prop :=
  ∀ nodeId, removedOf (state, action) = some nodeId → gone nodeId earlier = false

theorem pending_of_removed {state : Watchdog F} {action : WatchdogAction F} {nodeId : String}
    (removal : removedOf (state, action) = some nodeId) : nodeId ∈ pending state.stage := by
  cases action with
  | advance =>
      change removes state = some nodeId at removal
      unfold removes at removal
      split at removal
      · next head rest here =>
          cases removal
          rw [here]
          exact List.mem_cons_self
      · cases removal
  | _ => cases removal

theorem removesPresent (config : WatchdogConfig)
    {trace : Trace (Watchdog F) (WatchdogAction F)} {state : Watchdog F}
    (run : Run (machine config) trace state) : Meets RemovesPresent trace := by
  induction run with
  | start => trivial
  | @next trace before after action earlier taken ih =>
      refine ⟨?_, ih⟩
      intro nodeId removal
      cases since : gone nodeId trace with
      | false => rfl
      | true =>
          have cleared := ((told config earlier).absent nodeId since).2
          exact absurd (pending_of_removed removal) cleared

end PeatSapient.Watchdog
