import PeatSapient.Bridge.Moves
import PeatSapient.Publication

/-! What a connection's messages come to. Without a detection limit, the documents
that the subscriber makes of a connection's updates are a function of the messages
that the connection has received, one by one and in order. -/

namespace PeatSapient.Bridge

open HashMap Mpsc Execution

variable {F : Type} [FloatOps F]

def resultDocs : Except SapientError (SapientUpdate F) → List (Publication F)
  | .ok update => (publishUpdate update).toList
  | .error _ => []

def messageDocs (msg : SapientMessage F) (sensorPosition : Option (TrackPosition F)) :
    List (Publication F) :=
  resultDocs (routeMessage msg sensorPosition none 0).1

def pendingDocs : Stage F → List (Publication F)
  | .registering msg | .acking msg | .snapshotting msg | .reaping msg _
  | .replaying msg _ | .locating msg => messageDocs msg none
  | .routing msg sensorPosition => messageDocs msg sensorPosition
  | .recording update | .emitting update => (publishUpdate update).toList
  | _ => []

def emittedDocs (conn : ConnId) (attempts : List (Emitted F)) : List (Publication F) :=
  (attempts.filter fun emitted => emitted.source == conn).filterMap fun emitted =>
    publishUpdate emitted.update

def docs (state : Bridge F) (conn : ConnId) : List (Publication F) :=
  emittedDocs conn state.updates.attempts ++ pendingDocs (state.conns conn).stage

omit [FloatOps F] in
def receives (conn : ConnId) : Bridge F × Action F → Option (SapientMessage F)
  | (_, .receive other msg) => if other = conn then some msg else none
  | _ => none

omit [FloatOps F] in
def receivedOn (conn : ConnId) (trace : Trace (Bridge F) (Action F)) :
    List (SapientMessage F) :=
  trace.reverse.filterMap (receives conn)

omit [FloatOps F] in
theorem receivedOn_cons (conn : ConnId) (entry : Bridge F × Action F)
    (trace : Trace (Bridge F) (Action F)) :
    receivedOn conn (entry :: trace) =
      receivedOn conn trace ++ (receives conn entry).toList := by
  cases given : receives conn entry <;> simp [receivedOn, given]

theorem routeMessage_unlimited (msg : SapientMessage F)
    (sensorPosition : Option (TrackPosition F)) (now : Nat) :
    routeMessage msg sensorPosition none now =
      ((routeMessage msg sensorPosition none 0).1, none) := by
  unfold routeMessage
  split
  · rfl
  · rfl
  · simp only [admits, if_true]
    split <;> rfl
  all_goals rfl

theorem messageDocs_of_routed {msg : SapientMessage F}
    {sensorPosition : Option (TrackPosition F)} {now : Nat}
    {result : Except SapientError (SapientUpdate F)} {limiter : Option (DetectionLimiter F)}
    (routed : routeMessage msg sensorPosition none now = (result, limiter)) :
    messageDocs msg sensorPosition = resultDocs result := by
  rw [routeMessage_unlimited] at routed
  exact congrArg (fun routed => resultDocs (Prod.fst routed)) routed

/-- Nothing in the bridge limits detections or knows a sensor's position. -/
structure Plain (state : Bridge F) : Prop where
  unlimited : state.detectionLimiter = none
  unplaced : ∀ nodeId, state.registry.getPosition nodeId = none

omit [FloatOps F] in
theorem getPosition_upsert {registry : NodeRegistry F}
    (unplaced : ∀ nodeId, registry.getPosition nodeId = none) (now : Nat) (nodeId : String)
    (capability : Option (CapabilityAdvertisement F)) (other : String) :
    (registry.upsert now nodeId capability none).getPosition other = none := by
  unfold NodeRegistry.getPosition at unplaced ⊢
  rw [NodeRegistry.lookup_upsert]
  split
  · exact unplaced nodeId
  · exact unplaced other

omit [FloatOps F] in
theorem getPosition_remove {registry : NodeRegistry F}
    (unplaced : ∀ nodeId, registry.getPosition nodeId = none) (nodeId other : String) :
    (registry.remove nodeId).getPosition other = none := by
  unfold NodeRegistry.getPosition at unplaced ⊢
  rw [NodeRegistry.lookup_remove]
  split
  · rfl
  · exact unplaced other

/-- The bridge never enters a position into its registry. -/
theorem plain_step (config : BridgeConfig F) {state after : Bridge F} {action : Action F}
    (plain : Plain state) (moved : Moves config state action after) : Plain after := by
  cases moved with
  | upsert id update target capability here writes =>
      exact ⟨plain.unlimited, getPosition_upsert plain.unplaced _ _ _⟩
  | unregister id target here =>
      exact ⟨plain.unlimited, getPosition_remove plain.unplaced _⟩
  | route id msg position update limiter here routed =>
      rw [plain.unlimited, routeMessage_unlimited] at routed
      exact ⟨(congrArg Prod.snd routed).symm, plain.unplaced⟩
  | reject id msg position failure limiter here routed =>
      rw [plain.unlimited, routeMessage_unlimited] at routed
      exact ⟨(congrArg Prod.snd routed).symm, plain.unplaced⟩
  | _ => exact ⟨plain.unlimited, plain.unplaced⟩

theorem plain_run (config : BridgeConfig F) (unlimited : config.detectionRateLimit = none)
    {state : Bridge F} (reached : Reachable (machine config) state) : Plain state := by
  refine reached.invariant Plain ⟨?_, fun _ => rfl⟩ ?_
  · simp [machine, new, unlimited]
  · intro before action after _ plain taken
    exact plain_step config plain (moves_of_step config taken)

theorem docs_setConn (state : Bridge F) (id : ConnId) (changed : Connection F)
    (same : pendingDocs changed.stage = pendingDocs (state.conns id).stage) (conn : ConnId) :
    docs (state.setConn id changed) conn = docs state conn := by
  by_cases here : conn = id
  · subst here
    simp [docs, setConn, same]
  · simp [docs, setConn, here]

theorem docs_emit {state : Bridge F} (id : ConnId) (stage : Stage F)
    (updates : Channel (Emitted F)) (update : SapientUpdate F)
    (sent : state.updates.send ⟨id, update⟩ = some updates)
    (before : pendingDocs (state.conns id).stage = (publishUpdate update).toList)
    (nothing : pendingDocs stage = []) (conn : ConnId) :
    docs (({ state with updates := updates } : Bridge F).setStage id stage) conn =
      docs state conn := by
  unfold docs
  change emittedDocs conn updates.attempts ++ _ = _
  rw [Channel.attempts_send sent]
  by_cases here : conn = id
  · subst here
    cases made : publishUpdate update <;>
      simp [emittedDocs, setStage, setConn, nothing, before, made]
  · have other : (id == conn) = false := by simpa using Ne.symm here
    simp [emittedDocs, setStage, setConn, here, other]

theorem docs_step (config : BridgeConfig F) {state after : Bridge F} {action : Action F}
    (plain : Plain state) (moved : Moves config state action after) (conn : ConnId)
    (silent : receives conn (state, action) = none) : docs after conn = docs state conn := by
  cases moved with
  | receive id msg here =>
      have other : conn ≠ id := by
        intro same
        simp [receives, same] at silent
      simp [docs, setConn, other]
  | tick | startTask | startAlert | insert | skipInsert | queue | queueReap | callReap
  | absent | connect | alertAbsent | alertConnect | dropReceiver =>
      rfl
  | consume emitted updates taken =>
      simp only [docs, Channel.attempts_recv taken]
  | emit id update updates here sent =>
      exact docs_emit id .reading updates update sent (by rw [here]; rfl) rfl conn
  | announce id target updates here sent =>
      exact docs_emit id .closed updates _ sent (by rw [here]; rfl) rfl conn
  | locate id msg here =>
      refine docs_setConn state id _ ?_ conn
      simp [here, pendingDocs, plain.unplaced]
  | route id msg position update limiter here routed =>
      rw [plain.unlimited] at routed
      refine docs_setConn { state with detectionLimiter := limiter } id _ ?_ conn
      simp only [here, pendingDocs, messageDocs_of_routed routed, resultDocs]
  | reject id msg position failure limiter here routed =>
      rw [plain.unlimited] at routed
      refine docs_setConn { state with detectionLimiter := limiter } id _ ?_ conn
      simp only [here, pendingDocs, messageDocs_of_routed routed, resultDocs]
  | hangUp id here =>
      refine docs_setConn state id _ ?_ conn
      unfold hungUp
      split <;> simp [here, pendingDocs]
  | register id msg here
  | acknowledgeRegistration id msg write here
  | snapshot id msg here
  | drain id msg here
  | connReap id msg expired here
  | replayed id msg here
  | replay id msg out rest write here
  | upsert id update target capability here
  | ackTask id sender acked given status reasons here
  | pass id update here
  | correlate id sender acked status reasons cleared here
  | disconnect id target here
  | unregister id target here =>
      refine docs_setConn _ id _ ?_ conn
      simp [here, pendingDocs, publishUpdate]
  | writerTakes id | writerWrote id | writerFailed id =>
      refine docs_setConn state id _ ?_ conn
      rfl
  | deliver id target delivered out write here sent =>
      exact docs_setConn state delivered { state.conns delivered with write := write } rfl conn

theorem docs_receive (config : BridgeConfig F) {state after : Bridge F} {action : Action F}
    (moved : Moves config state action after) {conn : ConnId} {msg : SapientMessage F}
    (received : receives conn (state, action) = some msg) :
    docs after conn = docs state conn ++ messageDocs msg none := by
  cases moved with
  | receive id given here =>
      simp only [receives, Option.ite_none_right_eq_some, Option.some.injEq] at received
      obtain ⟨rfl, rfl⟩ := received
      have arrived : pendingDocs (state.arrive id given).stage = messageDocs given none := by
        unfold arrive
        split <;> rfl
      have waiting : pendingDocs (state.conns id).stage = [] := by rw [here]; rfl
      simp [docs, setConn, arrived, waiting]
  | _ => cases received

/-- The documents emitted and still to come on a connection are those of the messages
it has received. -/
theorem docs_run (config : BridgeConfig F) (unlimited : config.detectionRateLimit = none)
    {trace : Trace (Bridge F) (Action F)} {state : Bridge F}
    (run : Run (machine config) trace state) (conn : ConnId) :
    docs state conn = (receivedOn conn trace).flatMap fun msg => messageDocs msg none := by
  refine run.invariant (fun trace state => docs state conn =
    (receivedOn conn trace).flatMap fun msg => messageDocs msg none) rfl ?_
  intro trace before action after earlier held taken
  have moved := moves_of_step config taken
  rw [receivedOn_cons, List.flatMap_append, ← held]
  cases received : receives conn (before, action) with
  | none =>
      rw [docs_step config (plain_run config unlimited ⟨trace, earlier⟩) moved conn received]
      simp
  | some msg =>
      rw [docs_receive config moved received]
      simp

end PeatSapient.Bridge
