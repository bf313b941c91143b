import PeatSapient.Bridge.Emission
import PeatSapient.Lib.Transducer
import PeatSapient.Translator.History

/-! The two ingestion paths side by side: the bridge with its subscriber, and the peer
loop with the translator. They differ on a range-bearing detection only. Both resolve
it from the sensor's position, but the registry of the bridge never learns one. -/

namespace PeatSapient.Ingestion

open HashMap Mpsc Execution Transduction Bridge
open SapientTranslator (placedReport northDetection placedReportBytes northDetectionBytes
  sampleProst)

variable {F : Type} [FloatOps F]

/-- The bridge's path as a function of the messages. -/
def bridgePath : Transducer Unit (SapientMessage F) (Publication F) :=
  fun _ msg => (messageDocs msg none, ())

theorem outputs_bridgePath (msgs : List (SapientMessage F)) :
    outputs bridgePath () msgs = msgs.flatMap fun msg => messageDocs msg none := by
  induction msgs with
  | nil => rfl
  | cons msg rest ih => simp [outputs, bridgePath, ← ih]

/-- The peer loop's path, past the protobuf library. -/
def peerPath : Transducer (SapientTranslator F) (SapientMessage F) (Publication F) :=
  fun translator msg =>
    match collectionFor msg with
    | none => ([], translator)
    | some collection =>
        let decoded := translator.decodeMessage msg
        (publishDecoded collection decoded.1, decoded.2)

theorem receiveMessage_exact (prost : Codec.Prost (SapientMessage F))
    (translator : SapientTranslator F) {msg : SapientMessage F}
    (exact_ : prost.decode (prost.encodeToVec msg) = .ok msg) :
    receiveMessage prost translator msg = peerPath translator msg := by
  have decoded : translator.decodeInbound prost (prost.encodeToVec msg) =
      translator.decodeMessage msg := by
    simp only [SapientTranslator.decodeInbound, exact_]
  cases named : collectionFor msg with
  | none => simp only [receiveMessage, peerPath, named]
  | some collection => simp only [receiveMessage, peerPath, named, decoded]

theorem runPeerRecvLoop_exact (prost : Codec.Prost (SapientMessage F))
    (msgs : List (SapientMessage F))
    (exact_ : ∀ msg ∈ msgs, prost.decode (prost.encodeToVec msg) = .ok msg)
    (translator : SapientTranslator F) :
    (runPeerRecvLoop prost translator (msgs.map fun msg => .ok (some msg))).1 =
      outputs peerPath translator msgs := by
  induction msgs generalizing translator with
  | nil => rfl
  | cons msg rest ih =>
      have later := ih (fun other member => exact_ other (List.mem_cons_of_mem _ member))
      simp only [List.map_cons, runPeerRecvLoop, outputs,
        receiveMessage_exact prost translator (exact_ msg List.mem_cons_self), later]

omit [FloatOps F] in
def rangeBearingOf (msg : SapientMessage F) : Option (RangeBearing F) :=
  match msg.content with
  | some (.detectionReport dr) =>
      match dr.locationOneof with
      | some (.rangeBearing rb) => some rb
      | _ => none
  | _ => none

def resolvable (msg : SapientMessage F) : Bool :=
  match rangeBearingOf msg with
  | some rb => (normalizeRb rb).isOk
  | none => false

def placesSender (msg : SapientMessage F) : Bool :=
  match msg.content with
  | some (.statusReport sr) => (sr.nodeLocation.bind locationToPosition).isSome
  | _ => false

/-- A resolvable range-bearing detection comes after a StatusReport that gave its
node's position. -/
def RangeBearingAfterStatus (msgs : List (SapientMessage F)) : Prop :=
  ∃ earlier msg later, msgs = earlier ++ msg :: later ∧ resolvable msg = true ∧
    ∃ status ∈ earlier, placesSender status = true ∧ status.sender = msg.sender

theorem fromDetectionReport_unplaced (nodeId : String) {dr : DetectionReport F}
    {rb : RangeBearing F} (found : dr.locationOneof = some (.rangeBearing rb)) :
    ∃ failure, fromDetectionReport nodeId none dr = .error failure := by
  simp [fromDetectionReport, detectionPosition, found]

theorem fromDetectionReport_placed (nodeId : String) {dr : DetectionReport F}
    {rb : RangeBearing F} (found : dr.locationOneof = some (.rangeBearing rb))
    (sensor : TrackPosition F) :
    (fromDetectionReport nodeId (some sensor) dr).isOk = (normalizeRb rb).isOk := by
  simp only [fromDetectionReport, detectionPosition, found, rangeBearingToTrackPosition]
  cases normalizeRb rb <;> rfl

def detectionDocs (nodeId : String) (sensorPosition : Option (TrackPosition F))
    (dr : DetectionReport F) : List (Publication F) :=
  match fromDetectionReport nodeId sensorPosition dr with
  | .ok track => [⟨"tracks", documentFromFields (trackToFields track), sapientOrigin⟩]
  | .error _ => []

theorem messageDocs_detection {msg : SapientMessage F} {dr : DetectionReport F}
    (content : msg.content = some (.detectionReport dr)) :
    messageDocs msg none = detectionDocs msg.sender none dr := by
  simp only [messageDocs, routeMessage, content, admits, if_true, detectionDocs]
  cases fromDetectionReport msg.sender none dr <;> rfl

theorem peerPath_detection (translator : SapientTranslator F) {msg : SapientMessage F}
    {dr : DetectionReport F} (content : msg.content = some (.detectionReport dr)) :
    (peerPath translator msg).1 =
      detectionDocs msg.sender (translator.cachedPosition msg.sender) dr := by
  simp only [peerPath, collectionFor, SapientTranslator.decodeMessage, content, detectionDocs]
  cases fromDetectionReport msg.sender (translator.cachedPosition msg.sender) dr <;> rfl

theorem messageDocs_other (translator : SapientTranslator F) {msg : SapientMessage F}
    (other : ∀ dr, msg.content ≠ some (.detectionReport dr)) :
    messageDocs msg none = (peerPath translator msg).1 := by
  cases given : msg.content with
  | none => simp [messageDocs, peerPath, routeMessage, collectionFor, given, resultDocs,
      publishUpdate]
  | some content =>
      cases content with
      | detectionReport dr => exact absurd given (other dr)
      | _ =>
          simp [messageDocs, peerPath, routeMessage, collectionFor, given, resultDocs,
            publishUpdate, publishDecoded, SapientTranslator.decodeMessage,
            SapientTranslator.platformsCollection]

omit [FloatOps F] in
theorem rangeBearingOf_some {msg : SapientMessage F} {rb : RangeBearing F}
    (found : rangeBearingOf msg = some rb) :
    ∃ dr, msg.content = some (.detectionReport dr) ∧
      dr.locationOneof = some (.rangeBearing rb) := by
  unfold rangeBearingOf at found
  split at found
  · next dr content =>
      split at found
      · next located => exact ⟨dr, content, located.trans (by rw [Option.some.inj found])⟩
      · cases found
  · cases found

theorem resolvable_iff (msg : SapientMessage F) :
    resolvable msg = true ↔
      ∃ rb, rangeBearingOf msg = some rb ∧ (normalizeRb rb).isOk = true := by
  unfold resolvable
  cases rangeBearingOf msg <;> simp

/-- On a resolvable range-bearing detection of a sensor whose position the translator
knows, the bridge publishes nothing and the peer loop a document. -/
theorem paths_differ (translator : SapientTranslator F) {msg : SapientMessage F}
    (resolves : resolvable msg = true)
    (placed : (translator.cachedPosition msg.sender).isSome = true) :
    messageDocs msg none = [] ∧ (peerPath translator msg).1 ≠ [] := by
  obtain ⟨rb, bearing, normal⟩ := (resolvable_iff msg).mp resolves
  obtain ⟨dr, content, found⟩ := rangeBearingOf_some bearing
  -- The bridge knows no position, whatever the node has reported.
  obtain ⟨failure, dropped⟩ := fromDetectionReport_unplaced msg.sender found
  obtain ⟨sensor, cached⟩ := Option.isSome_iff_exists.mp placed
  have kept := fromDetectionReport_placed msg.sender found sensor
  rw [messageDocs_detection content, peerPath_detection translator content, cached]
  unfold detectionDocs
  constructor
  · rw [dropped]
  · rw [normal] at kept
    cases made : fromDetectionReport msg.sender (some sensor) dr with
    | ok track => simp
    | error failure =>
        rw [made] at kept
        cases kept

theorem paths_agree (translator : SapientTranslator F) {msg : SapientMessage F}
    (ordinary : ¬ (resolvable msg = true ∧
      (translator.cachedPosition msg.sender).isSome = true)) :
    messageDocs msg none = (peerPath translator msg).1 := by
  by_cases detection : ∃ dr, msg.content = some (.detectionReport dr)
  -- A detection matters only when it is range-bearing and the translator has a position;
  -- then it fails on both paths, as `normalizeRb` rejects it.
  · obtain ⟨dr, content⟩ := detection
    rw [messageDocs_detection content, peerPath_detection translator content]
    by_cases bearing : ∃ rb, dr.locationOneof = some (.rangeBearing rb)
    · obtain ⟨rb, found⟩ := bearing
      obtain ⟨failure, dropped⟩ := fromDetectionReport_unplaced msg.sender found
      cases cached : translator.cachedPosition msg.sender with
      | none => rfl
      | some sensor =>
          have kept := fromDetectionReport_placed msg.sender found sensor
          have unresolved : (normalizeRb rb).isOk = false := by
            simpa [cached, resolvable, rangeBearingOf, content, found] using ordinary
          unfold detectionDocs
          rw [dropped]
          cases made : fromDetectionReport msg.sender (some sensor) dr with
          | error _ => rfl
          | ok track =>
              rw [made, unresolved] at kept
              cases kept
    · have absolute : ∀ rb, dr.locationOneof ≠ some (.rangeBearing rb) :=
        fun rb found => bearing ⟨rb, found⟩
      simp only [detectionDocs, fromDetectionReport_location msg.sender none
        (translator.cachedPosition msg.sender) dr absolute]
  · exact messageDocs_other translator fun dr content => detection ⟨dr, content⟩

theorem agree_iff (translator : SapientTranslator F) (msg : SapientMessage F) :
    messageDocs msg none = (peerPath translator msg).1 ↔
      ¬ (resolvable msg = true ∧ (translator.cachedPosition msg.sender).isSome = true) := by
  refine ⟨?_, paths_agree translator⟩
  rintro same ⟨resolves, placed⟩
  obtain ⟨nothing, something⟩ := paths_differ translator resolves placed
  exact something (same.symm.trans nothing)

theorem narrower : Narrower (bridgePath (F := F)) peerPath := by
  intro _ translator msg
  by_cases special : resolvable msg = true ∧
      (translator.cachedPosition msg.sender).isSome = true
  · right
    obtain ⟨nothing, something⟩ := paths_differ translator special.1 special.2
    simp only [bridgePath, nothing, List.length_nil]
    exact List.length_pos_iff.mpr something
  · exact Or.inl (paths_agree translator special)

/-- A message caches its sender's position when it reports one, and nothing else. -/
theorem cachedPosition_peerPath (translator : SapientTranslator F) (msg : SapientMessage F)
    (nodeId : String) :
    ((peerPath translator msg).2.cachedPosition nodeId).isSome = true ↔
      (translator.cachedPosition nodeId).isSome = true ∨
        (placesSender msg = true ∧ msg.sender = nodeId) := by
  cases given : msg.content with
  | none => simp [peerPath, collectionFor, placesSender, given]
  | some content =>
      cases content with
      | statusReport sr =>
          simp only [peerPath, collectionFor, given, SapientTranslator.decodeMessage,
            fromStatusReport, nodeStateOf, placesSender]
          cases sr.nodeLocation.bind locationToPosition with
          | none => simp
          | some pos =>
              simp only [SapientTranslator.cachedPosition_cachePosition, Option.isSome_some,
                true_and]
              by_cases same : nodeId = msg.sender
              · simp [same]
              · simp [same, Ne.symm same]
      | detectionReport dr =>
          simp only [peerPath, collectionFor, given, SapientTranslator.decodeMessage,
            placesSender]
          cases fromDetectionReport msg.sender (translator.cachedPosition msg.sender) dr <;>
            simp
      | _ =>
          simp [peerPath, collectionFor, placesSender, given,
            SapientTranslator.decodeMessage]

theorem cachedPosition_after (translator : SapientTranslator F)
    (msgs : List (SapientMessage F)) (nodeId : String) :
    ((after peerPath translator msgs).cachedPosition nodeId).isSome = true ↔
      (translator.cachedPosition nodeId).isSome = true ∨
        ∃ status ∈ msgs, placesSender status = true ∧ status.sender = nodeId := by
  induction msgs generalizing translator with
  | nil => simp [after]
  | cons msg rest ih =>
      simp only [after, List.foldl_cons] at ih ⊢
      rw [ih, cachedPosition_peerPath]
      simp only [List.exists_mem_cons_iff, or_assoc]

theorem paths_eq_iff (msgs : List (SapientMessage F)) :
    outputs bridgePath () msgs = outputs peerPath SapientTranslator.new msgs ↔
      ¬ RangeBearingAfterStatus msgs := by
  -- Equal on the whole exactly when equal on each message, as the bridge only ever
  -- publishes less.
  rw [outputs_eq_iff narrower]
  simp only [bridgePath, agree_iff, cachedPosition_after, SapientTranslator.cachedPosition_new,
    Option.isSome_none, Bool.false_eq_true, false_or, RangeBearingAfterStatus]
  constructor
  · rintro agree ⟨earlier, msg, later, split, resolves, status⟩
    exact agree earlier msg later split ⟨resolves, status⟩
  · intro none_ earlier msg later split special
    exact none_ ⟨earlier, msg, later, split, special⟩

omit [FloatOps F] in
def receivesElsewhere (conn : ConnId) : Action F → Bool
  | .receive other _ => other != conn
  | _ => false

def alone (conn : ConnId) (trace : Trace (Bridge F) (Action F)) : Prop :=
  ∀ entry ∈ trace, receivesElsewhere conn entry.2 = false

omit [FloatOps F] in
instance (conn : ConnId) (trace : Trace (Bridge F) (Action F)) :
    Decidable (alone conn trace) :=
  inferInstanceAs (Decidable (∀ entry ∈ trace, _))

omit [FloatOps F] in
theorem receivedOn_other {conn other : ConnId} {trace : Trace (Bridge F) (Action F)}
    (only : alone conn trace) (different : other ≠ conn) : receivedOn other trace = [] := by
  refine List.filterMap_eq_nil_iff.mpr fun entry member => ?_
  have here := only entry (List.mem_reverse.mp member)
  obtain ⟨state, action⟩ := entry
  cases action with
  | receive source msg =>
      have own : source = conn := by simpa [receivesElsewhere] using here
      simp [receives, own, Ne.symm different]
  | _ => rfl

theorem filterMap_source {conn : ConnId} (attempts : List (Emitted F))
    (others : ∀ other, other ≠ conn → emittedDocs other attempts = []) :
    runBridgeSubscriber (attempts.map Emitted.update) = emittedDocs conn attempts := by
  -- No update of another connection has a document, so filtering by source loses nothing.
  induction attempts with
  | nil => rfl
  | cons emitted rest ih =>
      have later := ih fun other different => by
        have nothing := others other different
        unfold emittedDocs at nothing ⊢
        rw [List.filter_cons] at nothing
        split at nothing
        · rw [List.filterMap_cons] at nothing
          split at nothing
          · exact nothing
          · cases nothing
        · exact nothing
      unfold runBridgeSubscriber emittedDocs at later ⊢
      rw [List.map_cons, List.filterMap_cons, List.filter_cons, later]
      by_cases own : emitted.source = conn
      · simp [own]
        rfl
      · have nothing := others emitted.source own
        simp only [emittedDocs, List.filter_cons, beq_self_eq_true, if_true,
          List.filterMap_cons] at nothing
        cases made : publishUpdate emitted.update with
        | none => simp [own]
        | some doc => simp [made] at nothing

/-- The subscriber of a bridge with one connection publishes, once the connection has
dealt with what it received, the documents of these messages. -/
theorem published_by_bridge (config : BridgeConfig F)
    (unlimited : config.detectionRateLimit = none) {conn : ConnId}
    {trace : Trace (Bridge F) (Action F)} {state : Bridge F}
    (run : Run (machine config) trace state) (only : alone conn trace)
    (idle : (state.conns conn).stage = .reading ∨ (state.conns conn).stage = .closed) :
    runBridgeSubscriber (state.updates.attempts.map Emitted.update) =
      outputs bridgePath () (receivedOn conn trace) := by
  have own := docs_run config unlimited run conn
  have nothing : pendingDocs (state.conns conn).stage = [] := by
    rcases idle with reading | closed
    · rw [reading]
      rfl
    · rw [closed]
      rfl
  rw [docs, nothing, List.append_nil] at own
  rw [outputs_bridgePath, ← own]
  refine filterMap_source _ fun other different => ?_
  have total := docs_run config unlimited run other
  rw [receivedOn_other only different, docs] at total
  exact (List.append_eq_nil_iff.mp total).1

/-- The two ingestion paths agree on a connection's messages exactly when no resolvable
range-bearing detection among them comes after a StatusReport with its node's position. -/
theorem ingestion_agrees_iff (config : BridgeConfig F)
    (unlimited : config.detectionRateLimit = none) (prost : Codec.Prost (SapientMessage F))
    (conn : ConnId) {trace : Trace (Bridge F) (Action F)} {state : Bridge F}
    (run : Run (machine config) trace state) (only : alone conn trace)
    (idle : (state.conns conn).stage = .reading ∨ (state.conns conn).stage = .closed)
    (exact_ : ∀ msg ∈ receivedOn conn trace,
      prost.decode (prost.encodeToVec msg) = .ok msg) :
    runBridgeSubscriber (state.updates.attempts.map Emitted.update) =
        (runPeerRecvLoop prost SapientTranslator.new
          ((receivedOn conn trace).map fun msg => .ok (some msg))).1 ↔
      ¬ RangeBearingAfterStatus (receivedOn conn trace) := by
  rw [published_by_bridge config unlimited run only idle, runPeerRecvLoop_exact prost _ exact_]
  exact paths_eq_iff (receivedOn conn trace)

theorem sampleProst_exact : ∀ msg ∈ [placedReport, northDetection],
    sampleProst.decode (sampleProst.encodeToVec msg) = .ok msg := by
  intro msg member
  simp only [List.mem_cons, List.not_mem_nil, or_false] at member
  rcases member with rfl | rfl <;> rfl

def reporting : List (Action Float) := .receive 0 placedReport :: List.replicate 4 (.proceed 0)

def detecting : List (Action Float) :=
  .receive 0 northDetection :: List.replicate 2 (.proceed 0)

theorem detectionFirst_spared :
    ¬ RangeBearingAfterStatus [(northDetection : SapientMessage Float), placedReport] := by
  rintro ⟨earlier, msg, later, split, resolves, status, member, _⟩
  rcases earlier with _ | ⟨first, _ | ⟨second, rest⟩⟩
  · cases member
  · cases split
    exact absurd resolves (by decide)
  · simp at split

theorem ingestion_agrees_iff_detectionFirst :
    ∃ state : Bridge Float,
      (runBridgeSubscriber (state.updates.attempts.map Emitted.update)).length = 1 ∧
      runBridgeSubscriber (state.updates.attempts.map Emitted.update) =
        (runPeerRecvLoop sampleProst SapientTranslator.new
          ([northDetection, placedReport].map fun msg => .ok (some msg))).1 := by
  have run : Run (machine plainConfig) _ _ := replay_reachable (detecting ++ reporting) rfl
  have agrees := ingestion_agrees_iff plainConfig rfl sampleProst 0 run (by decide) (Or.inl rfl)
    fun msg member => sampleProst_exact msg (List.mem_pair.mpr (List.mem_pair.mp member).symm)
  exact ⟨_, by decide, agrees.mpr detectionFirst_spared⟩

/-- The bridge loses a detection that the translator places. -/
theorem ingestion_differs :
    ¬ ∀ (prost : Codec.Prost (SapientMessage Float)) (conn : ConnId)
      (trace : Trace (Bridge Float) (Action Float)) (state : Bridge Float),
      Run (machine plainConfig) trace state → alone conn trace →
      ((state.conns conn).stage = .reading ∨ (state.conns conn).stage = .closed) →
      (∀ msg ∈ receivedOn conn trace, prost.decode (prost.encodeToVec msg) = .ok msg) →
      runBridgeSubscriber (state.updates.attempts.map Emitted.update) =
        (runPeerRecvLoop prost SapientTranslator.new
          ((receivedOn conn trace).map fun msg => .ok (some msg))).1 := by
  intro agree
  have same := agree sampleProst 0 _ _ (replay_reachable (reporting ++ detecting) rfl)
    (by decide) (Or.inl rfl) sampleProst_exact
  have lengths := congrArg List.length same
  revert lengths
  decide

end PeatSapient.Ingestion
