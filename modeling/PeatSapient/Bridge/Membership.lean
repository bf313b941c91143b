import PeatSapient.Bridge.Reconnect

/-! Who is in the registry. Entries are written under the node id inside a message and
taken out under the id that a connection registered with; where every entry is written
for a node that still has a connection to take it out, the registry lists connected
nodes only. -/

namespace PeatSapient.Bridge

open HashMap Mpsc Execution

variable {F : Type}

def listing : Stage F → Bool
  | .announcing _ | .closed => false
  | _ => true

def Owned (state : Bridge F) (nodeId : String) : Prop :=
  ∃ conn, (state.conns conn).registered = some nodeId ∧
    listing (state.conns conn).stage = true

/-- The step writes no registry entry, or one of an owned node. -/
def WritesOwned (state : Bridge F) : Action F → Prop
  | .proceed conn =>
      match (state.conns conn).stage with
      | .recording update =>
          ∀ nodeId capability, upsertOf update = some (nodeId, capability) →
            Owned state nodeId
      | _ => True
  | _ => True

def leaving : Stage F → Option String
  | .disconnecting nodeId => some nodeId
  | .unregistering nodeId => some nodeId
  | .announcing nodeId => some nodeId
  | _ => none

def LeavesOwn (state : Bridge F) : Prop :=
  ∀ conn nodeId, leaving (state.conns conn).stage = some nodeId →
    (state.conns conn).registered = some nodeId

def AllOwned (state : Bridge F) : Prop :=
  ∀ nodeId, (state.registry.lookup nodeId).isSome = true → Owned state nodeId

def AtRest (state : Bridge F) : Prop :=
  ∀ conn, (state.conns conn).stage = .reading ∨ (state.conns conn).stage = .closed

/-- No node has two open connections that registered with its id. -/
def OnePerNode (state : Bridge F) : Prop :=
  ∀ nodeId left right, (state.conns left).registered = some nodeId →
    (state.conns right).registered = some nodeId →
    isOpen (state.conns left).stage = true → isOpen (state.conns right).stage = true →
    left = right

theorem Owned.setConn {state after : Bridge F} {nodeId : String} (owned : Owned state nodeId)
    (id : ConnId) (changed : Connection F)
    (conns : after.conns = Function.update state.conns id changed)
    (kept : (state.conns id).registered = some nodeId →
      listing (state.conns id).stage = true →
      changed.registered = some nodeId ∧ listing changed.stage = true) : Owned after nodeId := by
  obtain ⟨conn, registered, listed⟩ := owned
  refine ⟨conn, ?_⟩
  by_cases same : conn = id
  · subst same
    rw [conns, Function.update_self]
    exact kept registered listed
  · rw [conns, Function.update_of_ne same]
    exact ⟨registered, listed⟩

theorem AllOwned.setConn {state after : Bridge F} (held : AllOwned state) (id : ConnId)
    (changed : Connection F) (conns : after.conns = Function.update state.conns id changed)
    (registry : ∀ nodeId, (after.registry.lookup nodeId).isSome = true →
      (state.registry.lookup nodeId).isSome = true)
    (kept : ∀ nodeId, (after.registry.lookup nodeId).isSome = true →
      (state.conns id).registered = some nodeId → listing (state.conns id).stage = true →
      changed.registered = some nodeId ∧ listing changed.stage = true) : AllOwned after :=
  fun nodeId listed =>
    (held nodeId (registry nodeId listed)).setConn id changed conns (kept nodeId listed)

theorem AllOwned.congr {before after : Bridge F} (held : AllOwned before)
    (conns : after.conns = before.conns) (registry : after.registry = before.registry) :
    AllOwned after := by
  unfold AllOwned Owned at *
  rw [conns, registry]
  exact held

theorem LeavesOwn.setConn {state after : Bridge F} (held : LeavesOwn state) (id : ConnId)
    (changed : Connection F) (conns : after.conns = Function.update state.conns id changed)
    (kept : ∀ nodeId, leaving changed.stage = some nodeId →
      changed.registered = some nodeId) : LeavesOwn after := by
  intro conn nodeId at_
  by_cases same : conn = id
  · subst same
    rw [conns, Function.update_self] at at_ ⊢
    exact kept nodeId at_
  · rw [conns, Function.update_of_ne same] at at_ ⊢
    exact held conn nodeId at_

theorem LeavesOwn.congr {before after : Bridge F} (held : LeavesOwn before)
    (conns : after.conns = before.conns) : LeavesOwn after := by
  unfold LeavesOwn at *
  rw [conns]
  exact held

variable [FloatOps F]

theorem leavesOwn_step (config : BridgeConfig F) {state after : Bridge F} {action : Action F}
    (held : LeavesOwn state) (moved : Moves config state action after) : LeavesOwn after := by
  cases moved with
  | tick | startTask | startAlert | insert | skipInsert | queue | queueReap | callReap
  | absent | connect | alertAbsent | alertConnect | consume | dropReceiver =>
      exact held.congr rfl
  | deliver id target delivered out write here sent =>
      exact held.setConn delivered { state.conns delivered with write := write } rfl
        (held delivered)
  | writerTakes id out write taken | writerWrote id | writerFailed id =>
      exact held.setConn id _ rfl (held id)
  | disconnect id target here free =>
      apply held.setConn id { state.conns id with stage := .unregistering target } rfl
      exact fun nodeId at_ => held id nodeId (by rw [here]; exact at_)
  | unregister id target here =>
      apply held.setConn id { state.conns id with stage := .announcing target } rfl
      exact fun nodeId at_ => held id nodeId (by rw [here]; exact at_)
  | receive id msg here =>
      apply held.setConn id (state.arrive id msg) rfl
      intro nodeId at_
      unfold arrive at at_
      split at at_ <;> cases at_
  | hangUp id here =>
      apply held.setConn id { state.conns id with stage := state.hungUp id } rfl
      intro nodeId at_
      cases registered : (state.conns id).registered with
      | none => simp [hungUp, registered, leaving] at at_
      | some own =>
          simp only [hungUp, registered, leaving, Option.some.injEq] at at_
          rw [at_]
  | register id msg here free
  | acknowledgeRegistration id msg write here sent
  | snapshot id msg here free clean
  | drain id msg here free stale
  | connReap id msg expired here
  | replayed id msg here
  | replay id msg out rest write here sent
  | locate id msg here
  | route id msg position update limiter here routed
  | reject id msg position failure limiter here routed
  | upsert id update target capability here writes
  | ackTask id sender acked given status reasons here free
  | pass id update here silent other
  | correlate id sender acked status reasons cleared here
  | emit id update updates here sent
  | announce id target updates here sent =>
      apply held.setConn id _ rfl
      intro nodeId at_
      cases at_

/-- A step that writes owned nodes only leaves owned nodes only. -/
theorem allOwned_step (config : BridgeConfig F) {state after : Bridge F} {action : Action F}
    (leaves : LeavesOwn state) (held : AllOwned state) (owned : WritesOwned state action)
    (moved : Moves config state action after) : AllOwned after := by
  cases moved with
  | tick | startTask | startAlert | insert | skipInsert | queue | queueReap | callReap
  | absent | connect | alertAbsent | alertConnect | consume | dropReceiver =>
      exact held.congr rfl rfl
  | deliver id target delivered out write here sent =>
      exact held.setConn delivered { state.conns delivered with write := write } rfl
        (fun _ listed => listed) fun _ _ registered listed => ⟨registered, listed⟩
  | writerTakes id out write taken | writerWrote id | writerFailed id =>
      exact held.setConn id _ rfl (fun _ listed => listed)
        fun _ _ registered listed => ⟨registered, listed⟩
  | upsert id update target capability here writes =>
      have own : Owned state target := by
        simp only [WritesOwned, here] at owned
        exact owned target capability writes
      intro nodeId listed
      have before : Owned state nodeId := by
        change ((state.registry.upsert state.clock target capability none).lookup
          nodeId).isSome = true at listed
        rw [NodeRegistry.lookup_upsert] at listed
        split at listed
        · next same =>
            rw [same]
            exact own
        · exact held nodeId listed
      exact before.setConn id { state.conns id with stage := .emitting update } rfl
        fun registered _ => ⟨registered, rfl⟩
  | unregister id target here =>
      have own := leaves id target (by rw [here]; rfl)
      apply held.setConn id { state.conns id with stage := .announcing target } rfl
      · intro nodeId listed
        change ((state.registry.remove target).lookup nodeId).isSome = true at listed
        rw [NodeRegistry.lookup_remove] at listed
        split at listed
        · cases listed
        · exact listed
      -- The connection stops listing its node in the step that takes the node out.
      · intro nodeId listed registered _
        rw [own] at registered
        cases registered
        change ((state.registry.remove target).lookup target).isSome = true at listed
        rw [NodeRegistry.lookup_remove, if_pos rfl] at listed
        cases listed
  | announce id target updates here sent =>
      apply held.setConn id { state.conns id with stage := .closed } rfl
      · exact fun _ listed => listed
      · intro nodeId _ _ listed
        rw [here] at listed
        cases listed
  | receive id msg here =>
      apply held.setConn id (state.arrive id msg) rfl
      · exact fun _ listed => listed
      · intro nodeId _ registered _
        simp [arrive, registered, listing]
  | hangUp id here =>
      apply held.setConn id { state.conns id with stage := state.hungUp id } rfl
      · exact fun _ listed => listed
      · intro nodeId _ registered _
        simp [hungUp, registered, listing]
  | register id msg here free
  | acknowledgeRegistration id msg write here sent
  | snapshot id msg here free clean
  | drain id msg here free stale
  | connReap id msg expired here
  | replayed id msg here
  | replay id msg out rest write here sent
  | locate id msg here
  | route id msg position update limiter here routed
  | reject id msg position failure limiter here routed
  | ackTask id sender acked given status reasons here free
  | pass id update here silent other
  | correlate id sender acked status reasons cleared here
  | emit id update updates here sent
  | disconnect id target here free =>
      exact held.setConn id _ rfl (fun _ listed => listed)
        fun _ _ registered _ => ⟨registered, rfl⟩

/-- In a run that writes registry entries of owned nodes only, every node listed while
no connection is busy is the node that an open connection registered with. -/
theorem listed_connected (config : BridgeConfig F) {trace : Trace (Bridge F) (Action F)}
    {state : Bridge F} (run : Run (machine config) trace state)
    (owned : Meets (fun _ state action => WritesOwned state action) trace)
    (quiet : AtRest state) (nodeId : String)
    (listed : (state.registry.lookup nodeId).isSome = true) :
    ∃ conn, (state.conns conn).registered = some nodeId ∧
      isOpen (state.conns conn).stage = true := by
  have held : LeavesOwn state ∧ AllOwned state := by
    refine run.invariant_of_meets _ (fun _ state => LeavesOwn state ∧ AllOwned state)
      ?_ ?_ owned
    · constructor
      · intro conn nodeId at_
        cases at_
      · intro nodeId listed
        cases listed
    · rintro trace before action after _ ⟨leaves, owners⟩ writes taken
      have moved := moves_of_step config taken
      exact ⟨leavesOwn_step config leaves moved, allOwned_step config leaves owners writes moved⟩
  obtain ⟨conn, registered, still⟩ := held.2 nodeId listed
  refine ⟨conn, registered, ?_⟩
  rcases quiet conn with reading | closed
  · rw [reading]
    rfl
  · rw [closed] at still
    cases still

theorem listed_connected_registering :
    ∃ state : Bridge Float, (state.registry.lookup "n").isSome = true ∧
      ∃ conn, (state.conns conn).registered = some "n" ∧
        isOpen (state.conns conn).stage = true := by
  refine ⟨_, ?_, listed_connected plainConfig (replay_reachable (registering 0 "n") rfl)
    ?_ ?_ "n" ?_⟩
  · rfl
  · refine ⟨trivial, ?_, trivial, trivial, trivial, trivial, trivial, trivial, trivial,
      trivial⟩
    rintro nodeId capability writes
    cases writes
    exact ⟨0, rfl, rfl⟩
  · intro conn
    cases conn <;> exact Or.inl rfl
  · rfl

def statusOf (nodeId : String) : SapientMessage Float :=
  { nodeId := some nodeId, content := some (.statusReport {}) }

def reportingOnly : List (Action Float) :=
  .receive 0 (statusOf "n") :: List.replicate 4 (.proceed 0)

/-- A connection reports a status without ever having registered: the node it names is
listed although no connection has registered with its id. -/
theorem listed_unregistered :
    ¬ ∀ (trace : Trace (Bridge Float) (Action Float)) (state : Bridge Float),
      Run (machine plainConfig) trace state →
      Meets (fun _ state _ => OnePerNode state) trace → OnePerNode state → AtRest state →
      ∀ nodeId, (state.registry.lookup nodeId).isSome = true →
        ∃ conn, (state.conns conn).registered = some nodeId ∧
          isOpen (state.conns conn).stage = true := by
  intro connected
  have alone : ∀ state : Bridge Float, (∀ conn, (state.conns conn).registered = none) →
      OnePerNode state := by
    intro state none_ nodeId left right registered
    rw [none_ left] at registered
    cases registered
  have idle : Meets (fun _ state _ => OnePerNode state)
      ((replay (machine plainConfig) ([], (machine plainConfig).init) reportingOnly).get rfl).1 :=
    ⟨alone _ fun conn => by cases conn <;> rfl, alone _ fun conn => by cases conn <;> rfl,
      alone _ fun conn => by cases conn <;> rfl, alone _ fun conn => by cases conn <;> rfl,
      alone _ fun _ => rfl, trivial⟩
  obtain ⟨conn, registered, _⟩ := connected _ _ (replay_reachable reportingOnly rfl) idle
    (alone _ fun conn => by cases conn <;> rfl) (fun conn => by cases conn <;> exact Or.inl rfl)
    "n" rfl
  cases conn <;> cases registered

end PeatSapient.Bridge
