import PeatSapient.Bridge.Emission

/-! What the registry holds of a node's capabilities. A Registration and a StatusReport write
the same field. Once the connection of a node is done with its messages, the stored
advertisement is the one that these leave when written one after the other. -/

namespace PeatSapient.Bridge

open HashMap Mpsc Execution

variable {F : Type}

def StageForeign (nodeId : String) : Stage F → Prop
  | .registering msg | .acking msg | .snapshotting msg | .reaping msg _
  | .replaying msg _ | .locating msg | .routing msg _ => msg.sender ≠ nodeId
  | .recording update => ∀ capability, upsertOf update ≠ some (nodeId, capability)
  | .disconnecting target | .unregistering target => target ≠ nodeId
  | _ => True

structure Foreign (nodeId : String) (conn : Connection F) : Prop where
  registered : conn.registered ≠ some nodeId
  stage : StageForeign nodeId conn.stage

def Ended : Stage F → Prop
  | .disconnecting _ | .unregistering _ | .announcing _ | .closed => True
  | _ => False

def stored (state : Bridge F) (nodeId : String) : Option (CapabilityAdvertisement F) :=
  (state.registry.lookup nodeId).bind ConnectedNode.capability

def recordOf (nodeId : String) (update : SapientUpdate F)
    (advertisement : Option (CapabilityAdvertisement F)) : Option (CapabilityAdvertisement F) :=
  match upsertOf update with
  | some (target, capability) =>
      if target = nodeId then capability.or advertisement else advertisement
  | none => advertisement

theorem stored_upsert (state after : Bridge F) (target nodeId : String)
    (capability : Option (CapabilityAdvertisement F))
    (registry : after.registry = state.registry.upsert state.clock target capability none) :
    stored after nodeId =
      if target = nodeId then capability.or (stored state nodeId) else stored state nodeId := by
  unfold stored
  rw [registry, NodeRegistry.lookup_upsert]
  by_cases same : nodeId = target
  · subst same
    simp
  · simp [same, Ne.symm same]

variable [FloatOps F]

def write (nodeId : String) (msg : SapientMessage F)
    (advertisement : Option (CapabilityAdvertisement F)) : Option (CapabilityAdvertisement F) :=
  match msg.content with
  | some (.registration reg) => some (fromRegistration nodeId reg)
  | some (.statusReport report) => (capabilityDelta nodeId report).or advertisement
  | _ => advertisement

def writeFrom (nodeId : String) (msg : SapientMessage F)
    (advertisement : Option (CapabilityAdvertisement F)) : Option (CapabilityAdvertisement F) :=
  if msg.sender = nodeId then write nodeId msg advertisement else advertisement

def advertised (nodeId : String) :
    List (SapientMessage F) → Option (CapabilityAdvertisement F)
  | [] => none
  | msg :: older => write nodeId msg (advertised nodeId older)

def settledBy (nodeId : String) (stage : Stage F)
    (advertisement : Option (CapabilityAdvertisement F)) : Option (CapabilityAdvertisement F) :=
  match stage with
  | .registering msg | .acking msg | .snapshotting msg | .reaping msg _
  | .replaying msg _ | .locating msg | .routing msg _ => writeFrom nodeId msg advertisement
  | .recording update => recordOf nodeId update advertisement
  | _ => advertisement

def recordResult (nodeId : String) (result : Except SapientError (SapientUpdate F))
    (advertisement : Option (CapabilityAdvertisement F)) : Option (CapabilityAdvertisement F) :=
  match result with
  | .ok update => recordOf nodeId update advertisement
  | .error _ => advertisement

theorem recordResult_routed (nodeId : String) (msg : SapientMessage F)
    (position : Option (TrackPosition F)) (limiter : Option (DetectionLimiter F)) (now : Nat)
    (advertisement : Option (CapabilityAdvertisement F)) :
    recordResult nodeId (routeMessage msg position limiter now).1 advertisement =
      writeFrom nodeId msg advertisement := by
  have written : ∀ result : Except SapientError (SapientUpdate F),
      recordResult nodeId result advertisement =
        match registryWrite result with
        | some (target, capability) =>
            if target = nodeId then capability.or advertisement else advertisement
        | none => advertisement := by
    intro result
    cases result <;> rfl
  rw [written, registryWrite_routed]
  unfold writeFrom write
  cases msg.content with
  | none => simp
  | some body =>
      cases body with
      | registration reg =>
          by_cases same : msg.sender = nodeId
          · subst same
            simp
          · simp [same]
      | statusReport report =>
          by_cases same : msg.sender = nodeId
          · subst same
            simp
          · simp [same]
      | detectionReport report =>
          dsimp only
          cases (admits limiter now msg.sender).1 &&
            (fromDetectionReport msg.sender position report).isOk <;> simp
      | _ => simp

/-- A routed update is written for the sender of its message. -/
theorem upsertOf_sender {msg : SapientMessage F} {position : Option (TrackPosition F)}
    {limiter checked : Option (DetectionLimiter F)} {now : Nat} {update : SapientUpdate F}
    (routed : routeMessage msg position limiter now = (.ok update, checked)) {target : String}
    {capability : Option (CapabilityAdvertisement F)}
    (writes : upsertOf update = some (target, capability)) : target = msg.sender := by
  have written := registryWrite_routed msg position limiter now
  rw [routed, registryWrite, writes] at written
  split at written
  · cases written
    rfl
  · cases written
    rfl
  · split at written <;> cases written
    rfl
  · cases written

theorem foreign_step (config : BridgeConfig F) {nodeId : String} {state after : Bridge F}
    {action : Action F} {conn : ConnId} (held : Foreign nodeId (state.conns conn))
    (other : ∀ msg, action = .receive conn msg → msg.sender ≠ nodeId)
    (moved : Moves config state action after) : Foreign nodeId (after.conns conn) := by
  by_cases acts : actor action = some conn
  · have stage := held.stage
    cases moved with
    | register _ msg here | acknowledgeRegistration _ msg write here
    | snapshot _ msg here | drain _ msg here | connReap _ msg expired here
    | replayed _ msg here | replay _ msg out rest write here | locate _ msg here
    | disconnect _ target here =>
        cases acts
        rw [here] at stage
        exact ⟨by simpa [setStage, setConn] using held.registered,
          by simpa [setStage, setConn, StageForeign] using stage⟩
    | route _ msg position update limiter here routed =>
        cases acts
        rw [here] at stage
        refine ⟨by simpa [setStage, setConn] using held.registered, ?_⟩
        simp only [setStage, setConn, Function.update_self, StageForeign]
        intro capability writes
        exact stage (upsertOf_sender routed writes).symm
    | reject | upsert | ackTask | pass | correlate | emit | unregister | announce =>
        cases acts
        exact ⟨by simpa [setStage, setConn] using held.registered,
          by simp [setStage, setConn, StageForeign]⟩
    | receive _ msg here =>
        cases acts
        have apart := other msg rfl
        simp only [setConn, Function.update_self, arrive]
        split
        · exact ⟨fun same => apart (Option.some.inj same), apart⟩
        · exact ⟨held.registered, apart⟩
    | hangUp _ here =>
        cases acts
        refine ⟨by simpa [setStage, setConn] using held.registered, ?_⟩
        simp only [setStage, setConn, Function.update_self, hungUp]
        split
        · next target registered =>
            intro same
            exact held.registered (by rw [registered, same])
        · trivial
    | _ => cases acts
  · obtain ⟨stage, registered⟩ := frame_step config moved acts
    constructor
    · rw [registered]
      exact held.registered
    · rw [stage]
      exact held.stage

theorem stored_step (config : BridgeConfig F) {nodeId : String} {state after : Bridge F}
    {action : Action F} {id : ConnId} (apart : actor action ≠ some id)
    (foreign : ∀ conn, conn ≠ id → Foreign nodeId (state.conns conn))
    (moved : Moves config state action after) : stored after nodeId = stored state nodeId := by
  cases moved with
  | upsert conn update target capability here writes =>
      have stage := (foreign conn fun same => apart (by rw [same]; rfl)).stage
      rw [here] at stage
      rw [stored_upsert state _ target nodeId capability rfl, if_neg]
      rintro rfl
      exact stage capability writes
  | unregister conn target here =>
      have stage := (foreign conn fun same => apart (by rw [same]; rfl)).stage
      rw [here] at stage
      have found := NodeRegistry.lookup_remove state.registry target nodeId
      rw [if_neg (Ne.symm stage)] at found
      exact congrArg (fun found => Option.bind found ConnectedNode.capability) found
  | _ => rfl

/-- The connection is being cleaned up, or the advertisement is what is stored once its
message is recorded. -/
def Settles (nodeId : String) (state : Bridge F) (id : ConnId)
    (advertisement : Option (CapabilityAdvertisement F)) : Prop :=
  Ended (state.conns id).stage ∨
    settledBy nodeId (state.conns id).stage (stored state nodeId) = advertisement

theorem settles_step (config : BridgeConfig F) {nodeId : String} {state after : Bridge F}
    {action : Action F} {id : ConnId} (acts : actor action = some id)
    {advertisement : Option (CapabilityAdvertisement F)}
    (held : Settles nodeId state id advertisement) (silent : ∀ msg, action ≠ .receive id msg)
    (moved : Moves config state action after) : Settles nodeId after id advertisement := by
  unfold Settles at held ⊢
  cases moved with
  | register _ msg here | acknowledgeRegistration _ msg write here
  | snapshot _ msg here | drain _ msg here | connReap _ msg expired here
  | replayed _ msg here | replay _ msg out rest write here | locate _ msg here
  | correlate _ target taskId status reasons cleared here | emit _ update updates here =>
      cases acts
      rw [here] at held
      simpa [setStage, setConn, settledBy, stored, Ended] using held
  | disconnect | unregister | announce =>
      cases acts
      simp [setStage, setConn, Ended]
  | route _ msg position update limiter here routed =>
      cases acts
      have written := recordResult_routed nodeId msg position state.detectionLimiter state.clock
        (stored state nodeId)
      rw [here] at held
      change _ ∨ writeFrom nodeId msg (stored state nodeId) = _ at held
      rw [← written, routed] at held
      simpa [setStage, setConn, settledBy, stored, Ended, recordResult] using held
  | reject _ msg position failure limiter here routed =>
      cases acts
      have written := recordResult_routed nodeId msg position state.detectionLimiter state.clock
        (stored state nodeId)
      rw [here] at held
      change _ ∨ writeFrom nodeId msg (stored state nodeId) = _ at held
      rw [← written, routed] at held
      simpa [setStage, setConn, settledBy, stored, Ended, recordResult] using held
  | upsert _ update target capability here writes =>
      cases acts
      rw [here] at held
      have wrote := stored_upsert state (({ state with
        registry := state.registry.upsert state.clock target capability none }).setStage id
          (.emitting update)) target nodeId capability rfl
      rw [wrote]
      simpa [setStage, setConn, settledBy, Ended, recordOf, writes] using held
  | ackTask _ target taskId command status reasons here =>
      cases acts
      rw [here] at held
      simpa [setStage, setConn, settledBy, stored, Ended, recordOf, upsertOf] using held
  | pass _ update here quiet =>
      cases acts
      rw [here] at held
      simpa [setStage, setConn, settledBy, stored, Ended, recordOf, quiet] using held
  | receive _ msg => exact absurd rfl (by cases acts; exact silent msg)
  | hangUp _ here =>
      cases acts
      left
      simp only [setStage, setConn, Function.update_self, hungUp]
      split <;> trivial
  | _ => cases acts

theorem settles_receive {nodeId : String} {state : Bridge F} {id : ConnId}
    {advertisement : Option (CapabilityAdvertisement F)} (msg : SapientMessage F)
    (here : (state.conns id).stage = .reading) (held : Settles nodeId state id advertisement) :
    Settles nodeId (state.setConn id (state.arrive id msg)) id
      (writeFrom nodeId msg advertisement) := by
  rw [Settles, here] at held
  right
  have known : stored state nodeId = advertisement := by simpa [Ended, settledBy] using held
  simp only [setConn, Function.update_self, arrive]
  split <;> exact congrArg (writeFrom nodeId msg) known

def heard (id : ConnId) (nodeId : String) (trace : Trace (Bridge F) (Action F)) :
    List (SapientMessage F) :=
  (trace.filterMap (receives id)).filter fun msg => msg.sender == nodeId

def oneConnection (id : ConnId) (nodeId : String) : Action F → Bool
  | .receive conn msg => decide (msg.sender = nodeId → conn = id)
  | _ => true

theorem advertised_receive (id : ConnId) (nodeId : String) (state : Bridge F)
    (msg : SapientMessage F) (trace : Trace (Bridge F) (Action F)) :
    advertised nodeId (heard id nodeId ((state, .receive id msg) :: trace)) =
      writeFrom nodeId msg (advertised nodeId (heard id nodeId trace)) := by
  by_cases same : msg.sender = nodeId <;>
    simp [heard, receives, writeFrom, same, advertised]

omit [FloatOps F] in
theorem heard_silent {id : ConnId} {nodeId : String} {state : Bridge F} {action : Action F}
    (silent : ∀ msg, action ≠ .receive id msg) (trace : Trace (Bridge F) (Action F)) :
    heard id nodeId ((state, action) :: trace) = heard id nodeId trace := by
  have nothing : receives id (state, action) = none := by
    unfold receives
    split
    · next before conn msg shape =>
        cases shape
        exact if_neg fun same => silent msg (by rw [same])
    · rfl
  simp [heard, nothing]

structure Tracked (id : ConnId) (nodeId : String) (trace : Trace (Bridge F) (Action F))
    (state : Bridge F) : Prop where
  foreign : ∀ conn, conn ≠ id → Foreign nodeId (state.conns conn)
  settles : Settles nodeId state id (advertised nodeId (heard id nodeId trace))

theorem tracked_step (config : BridgeConfig F) {id : ConnId} {nodeId : String}
    {trace : Trace (Bridge F) (Action F)} {state after : Bridge F} {action : Action F}
    (held : Tracked id nodeId trace state) (alone : oneConnection id nodeId action = true)
    (moved : Moves config state action after) :
    Tracked id nodeId ((state, action) :: trace) after := by
  constructor
  · intro conn apart
    apply foreign_step config (held.foreign conn apart) ?_ moved
    rintro msg rfl same
    exact apart (of_decide_eq_true alone same)
  · by_cases acts : actor action = some id
    · by_cases reads : ∃ msg, action = .receive id msg
      · obtain ⟨msg, rfl⟩ := reads
        rw [advertised_receive]
        cases moved with
        | receive _ _ here => exact settles_receive msg here held.settles
      · have silent : ∀ msg, action ≠ .receive id msg := fun msg same => reads ⟨msg, same⟩
        rw [heard_silent silent]
        exact settles_step config acts held.settles silent moved
    · have silent : ∀ msg, action ≠ .receive id msg := fun msg same => acts (by rw [same]; rfl)
      rw [heard_silent silent, Settles, (frame_step config moved acts).1,
        stored_step config acts held.foreign moved]
      exact held.settles

theorem tracked (config : BridgeConfig F) {id : ConnId} {nodeId : String}
    {trace : Trace (Bridge F) (Action F)} {state : Bridge F}
    (run : Run (machine config) trace state)
    (alone : Meets (fun _ _ action => oneConnection id nodeId action = true) trace) :
    Tracked id nodeId trace state := by
  apply run.invariant_of_meets _ (Tracked id nodeId) ?_ ?_ alone
  · constructor
    · intro conn _
      constructor
      · simp [machine, new]
      · trivial
    · exact Or.inr rfl
  · intro trace before action after _ held alone taken
    exact tracked_step config held alone (moves_of_step config taken)

omit [FloatOps F] in
def latestRegistration : List (SapientMessage F) → Option Registration
  | [] => none
  | msg :: older =>
      match msg.content with
      | some (.registration reg) => some reg
      | _ => latestRegistration older

omit [FloatOps F] in
/-- No StatusReport with a field of view or a mode has been read since then. -/
def listUndisturbed : List (SapientMessage F) → Bool
  | [] => true
  | msg :: older =>
      match msg.content with
      | some (.registration _) => true
      | some (.statusReport report) =>
          !(report.fieldOfView.isSome || report.mode.isSome) && listUndisturbed older
      | _ => listUndisturbed older

/-- A change that a StatusReport reports takes the place of the Registration's list. -/
theorem advertised_iff (nodeId : String) {msgs : List (SapientMessage F)} {reg : Registration}
    (latest : latestRegistration msgs = some reg) :
    (advertised nodeId msgs).map CapabilityAdvertisement.capabilities =
        some (fromRegistration nodeId reg).capabilities ↔
      listUndisturbed msgs = true ∨
        (fromRegistration nodeId reg : CapabilityAdvertisement F).capabilities = [] := by
  induction msgs with
  | nil => cases latest
  | cons msg older ih =>
      cases content : msg.content with
      | none =>
          simp only [latestRegistration, content] at latest
          simpa [advertised, write, listUndisturbed, content] using ih latest
      | some body =>
          cases body with
          | registration given =>
              simp only [latestRegistration, content] at latest
              cases latest
              simp [advertised, write, listUndisturbed, content]
          | statusReport report =>
              simp only [latestRegistration, content] at latest
              cases changes : report.fieldOfView.isSome || report.mode.isSome with
              | true =>
                  have emptied : (advertised nodeId (msg :: older)).map
                      CapabilityAdvertisement.capabilities = some [] := by
                    simp [advertised, write, content, capabilityDelta, changes]
                  have disturbed : listUndisturbed (msg :: older) = false := by
                    simp [listUndisturbed, content, changes]
                  rw [emptied, disturbed, Option.some_inj, eq_comm]
                  simp
              | false =>
                  simpa [advertised, write, listUndisturbed, content, capabilityDelta, changes]
                    using ih latest
          | _ =>
              simp only [latestRegistration, content] at latest
              simpa [advertised, write, listUndisturbed, content] using ih latest

omit [FloatOps F] in
/-- The connection has recorded every message that it has read. -/
def Recorded : Stage F → Prop
  | .reading | .correlating _ _ _ _ _ | .emitting _ => True
  | _ => False

/-- Where the messages of a node come on one connection, the registry has the capabilities of
its latest Registration after a message exactly if no StatusReport with a field of view or a
mode has come since, or if that Registration has no capabilities. -/
theorem capabilities_kept_iff (config : BridgeConfig F) {id : ConnId} {nodeId : String}
    {trace : Trace (Bridge F) (Action F)} {state : Bridge F}
    (run : Run (machine config) trace state)
    (alone : Meets (fun _ _ action => oneConnection id nodeId action = true) trace)
    (rest : Recorded (state.conns id).stage) {reg : Registration}
    (latest : latestRegistration (heard id nodeId trace) = some reg) :
    (stored state nodeId).map CapabilityAdvertisement.capabilities =
        some (fromRegistration nodeId reg).capabilities ↔
      listUndisturbed (heard id nodeId trace) = true ∨
        (fromRegistration nodeId reg : CapabilityAdvertisement F).capabilities = [] := by
  have settled : stored state nodeId = advertised nodeId (heard id nodeId trace) := by
    have settles := (tracked config run alone).settles
    unfold Settles at settles
    cases stage : (state.conns id).stage <;> simp_all [Recorded, Ended, settledBy]
  rw [settled]
  exact advertised_iff nodeId latest

def radar : Registration :=
  { nodeDefinition := [{ nodeType := some 2 }] }

def radarThen (report : StatusReport Float) : List (Action Float) :=
  .receive 0 { nodeId := some "n", content := some (.registration radar) } ::
    List.replicate 8 (.proceed 0) ++
    .receive 0 { nodeId := some "n", content := some (.statusReport report) } ::
    List.replicate 4 (.proceed 0)

theorem capabilities_kept_iff_heartbeat :
    ∃ state : Bridge Float, (stored state "n").map CapabilityAdvertisement.capabilities =
      some (fromRegistration "n" radar).capabilities := by
  have run : Run (machine plainConfig) _ _ := replay_reachable (radarThen {}) rfl
  have kept := @capabilities_kept_iff Float _ plainConfig 0 "n" _ _ run (by decide) trivial
    radar rfl
  exact ⟨_, kept.mpr (Or.inl (by decide))⟩

/-- A status with a mode empties the list. -/
theorem mode_drops_capabilities :
    ¬ ∀ (trace : Trace (Bridge Float) (Action Float)) (state : Bridge Float) (reg : Registration),
      Run (machine plainConfig) trace state →
      Meets (fun _ _ action => oneConnection 0 "n" action = true) trace →
      Recorded (state.conns 0).stage →
      latestRegistration (heard 0 "n" trace) = some reg →
      (stored state "n").map CapabilityAdvertisement.capabilities =
        some (fromRegistration "n" reg).capabilities := by
  intro kept
  have same := kept _ _ radar (replay_reachable (radarThen { mode := some "m" }) rfl)
    (by decide) trivial rfl
  have lengths := congrArg (Option.map List.length) same
  revert lengths
  decide

end PeatSapient.Bridge
