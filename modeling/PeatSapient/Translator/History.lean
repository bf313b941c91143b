import Mathlib.Data.List.Induction
import PeatSapient.Translator

/-! What `decode_inbound` answers after a history of byte strings. The cache holds, for
each node, the position of its last StatusReport that could be placed, and only a
range-bearing detection looks at it. -/

namespace PeatSapient.SapientTranslator

open HashMap

variable {F : Type} [FloatOps F]

def decodeAll (prost : Codec.Prost (SapientMessage F)) (history : List Codec.Bytes) :
    SapientTranslator F :=
  history.foldl (fun translator bytes => (translator.decodeInbound prost bytes).2) new

def reportedBy (prost : Codec.Prost (SapientMessage F)) (nodeId : String)
    (bytes : Codec.Bytes) : Option (TrackPosition F) :=
  match prost.decode bytes with
  | .error _ => none
  | .ok msg =>
      match msg.content with
      | some (.statusReport sr) =>
          if msg.sender = nodeId then
            (sr.nodeLocation.bind locationToPosition).map sensorPositionOf
          else none
      | _ => none

def lastPosition (prost : Codec.Prost (SapientMessage F)) (nodeId : String)
    (history : List Codec.Bytes) : Option (TrackPosition F) :=
  (history.filterMap (reportedBy prost nodeId)).getLast?

def isRangeBearing (prost : Codec.Prost (SapientMessage F)) (bytes : Codec.Bytes) : Prop :=
  ∃ msg dr rb, prost.decode bytes = .ok msg ∧ msg.content = some (.detectionReport dr) ∧
    dr.locationOneof = some (.rangeBearing rb)

def trackAnswer : Except SapientError (Track F) →
    Except TranslatorError (Option (MeshDocument F))
  | .ok track => .ok (some (documentFromFields (trackToFields track)))
  | .error cause => .error ⟨"sapient: DetectionReport mapping failed", cause⟩

theorem decodeAll_snoc (prost : Codec.Prost (SapientMessage F)) (history : List Codec.Bytes)
    (bytes : Codec.Bytes) :
    decodeAll prost (history ++ [bytes]) =
      ((decodeAll prost history).decodeInbound prost bytes).2 := by
  simp [decodeAll]

/-- All one call does to the cache. -/
theorem cachedPosition_decodeInbound (prost : Codec.Prost (SapientMessage F))
    (translator : SapientTranslator F) (bytes : Codec.Bytes) (nodeId : String) :
    (translator.decodeInbound prost bytes).2.cachedPosition nodeId =
      (reportedBy prost nodeId bytes).or (translator.cachedPosition nodeId) := by
  unfold decodeInbound reportedBy
  cases prost.decode bytes with
  | error cause => rfl
  | ok msg =>
      dsimp only
      unfold decodeMessage
      cases content : msg.content with
      | none => rfl
      | some carried =>
          cases carried with
          | statusReport sr =>
              simp only [fromStatusReport, nodeStateOf]
              cases sr.nodeLocation.bind locationToPosition with
              | none => simp
              | some pos =>
                  dsimp only
                  rw [cachedPosition_cachePosition]
                  by_cases same : nodeId = msg.sender
                  · simp [same]
                  · simp [same, Ne.symm same]
          | detectionReport dr =>
              dsimp only
              split <;> rfl
          | _ => rfl

theorem cachedPosition_decodeAll (prost : Codec.Prost (SapientMessage F))
    (history : List Codec.Bytes) (nodeId : String) :
    (decodeAll prost history).cachedPosition nodeId = lastPosition prost nodeId history := by
  induction history using List.reverseRecOn with
  | nil => rfl
  | append_singleton history bytes ih =>
      rw [decodeAll_snoc, cachedPosition_decodeInbound, ih]
      unfold lastPosition
      rw [List.filterMap_append]
      cases reported : reportedBy prost nodeId bytes with
      | none => simp [reported]
      | some pos => simp [reported]

/-- A call looks at the cached position of the sender, and only for a range-bearing
detection. -/
theorem decodeInbound_answer (prost : Codec.Prost (SapientMessage F)) (bytes : Codec.Bytes)
    (left right : SapientTranslator F)
    (alike : ∀ msg, isRangeBearing prost bytes → prost.decode bytes = .ok msg →
      left.cachedPosition msg.sender = right.cachedPosition msg.sender) :
    (left.decodeInbound prost bytes).1 = (right.decodeInbound prost bytes).1 := by
  unfold decodeInbound
  cases decoded : prost.decode bytes with
  | error cause => rfl
  | ok msg =>
      dsimp only
      unfold decodeMessage
      cases content : msg.content with
      | none => rfl
      | some carried =>
          cases carried with
          | detectionReport dr =>
              have same : fromDetectionReport msg.sender (left.cachedPosition msg.sender) dr =
                  fromDetectionReport msg.sender (right.cachedPosition msg.sender) dr := by
                by_cases bearing : ∃ rb, dr.locationOneof = some (.rangeBearing rb)
                · obtain ⟨rb, located⟩ := bearing
                  rw [alike msg ⟨msg, dr, rb, decoded, content, located⟩ decoded]
                · exact fromDetectionReport_location _ _ _ dr
                    fun rb located => bearing ⟨rb, located⟩
              dsimp only
              rw [same]
              split <;> rfl
          | _ => rfl

/-- The answer to a range-bearing detection is the mapping at the last position reported
for its node; every other answer is the same after any history; and a call that reports
no position of the sender, whatever it is and however it ended, changes nothing. -/
theorem range_bearing_from_last_position (prost : Codec.Prost (SapientMessage F))
    (history : List Codec.Bytes) (bytes : Codec.Bytes) :
    (∀ msg dr rb, prost.decode bytes = .ok msg →
      msg.content = some (.detectionReport dr) → dr.locationOneof = some (.rangeBearing rb) →
        ((decodeAll prost history).decodeInbound prost bytes).1 =
          trackAnswer (fromDetectionReport msg.sender
            (lastPosition prost msg.sender history) dr)) ∧
    (¬ isRangeBearing prost bytes → ∀ other,
      ((decodeAll prost history).decodeInbound prost bytes).1 =
        ((decodeAll prost other).decodeInbound prost bytes).1) ∧
    ∀ earlier ignored later, history = earlier ++ ignored :: later →
      (∀ msg, prost.decode bytes = .ok msg → reportedBy prost msg.sender ignored = none) →
        ((decodeAll prost history).decodeInbound prost bytes).1 =
          ((decodeAll prost (earlier ++ later)).decodeInbound prost bytes).1 := by
  refine ⟨?resolved, ?independent, ?ignored⟩
  case resolved =>
    intro msg dr rb decoded content located
    unfold decodeInbound decodeMessage trackAnswer
    rw [decoded]
    simp only [content, cachedPosition_decodeAll]
    cases fromDetectionReport msg.sender (lastPosition prost msg.sender history) dr <;> rfl
  case independent =>
    intro plain other
    apply decodeInbound_answer
    intro msg bearing
    exact absurd bearing plain
  case ignored =>
    rintro earlier ignored later rfl silent
    apply decodeInbound_answer
    intro msg _ decoded
    rw [cachedPosition_decodeAll, cachedPosition_decodeAll]
    unfold lastPosition
    simp [List.filterMap_append, silent msg decoded]

def placedReport : SapientMessage Float where
  nodeId := some "n"
  content := some (.statusReport {
    nodeLocation := some { x := some 1.0, y := some 2.0, coordinateSystem := some 1 } })

def northDetection : SapientMessage Float where
  nodeId := some "n"
  content := some (.detectionReport {
    locationOneof := some (.rangeBearing {
      azimuth := some 0.0, range := some 100.0, coordinateSystem := some 1 }) })

def placedReportBytes : Codec.Bytes :=
  [0x12, 1, 0x6e, 0x32, 22, 0x3a, 20, 0x09, 0, 0, 0, 0, 0, 0, 0xf0, 0x3f,
    0x11, 0, 0, 0, 0, 0, 0, 0, 0x40, 0x38, 1]

def northDetectionBytes : Codec.Bytes :=
  [0x12, 1, 0x6e, 0x3a, 22, 0x2a, 20, 0x11, 0, 0, 0, 0, 0, 0, 0, 0,
    0x19, 0, 0, 0, 0, 0, 0, 0x59, 0x40, 0x38, 1]

def sampleProst : Codec.Prost (SapientMessage Float) where
  encodeToVec msg :=
    match msg.content with
    | some (.statusReport _) => placedReportBytes
    | some (.detectionReport _) => northDetectionBytes
    | _ => []
  decode bytes :=
    if bytes = placedReportBytes then .ok placedReport
    else if bytes = northDetectionBytes then .ok northDetection
    else .error ⟨"invalid wire type"⟩

theorem range_bearing_from_last_position_placed :
    ((decodeAll sampleProst [placedReportBytes, [15]]).decodeInbound sampleProst
        northDetectionBytes).1 =
      trackAnswer (fromDetectionReport "n" (some (sensorPositionOf ⟨2.0, 1.0, 0.0⟩))
        { locationOneof := some (.rangeBearing {
            azimuth := some 0.0, range := some 100.0, coordinateSystem := some 1 }) }) :=
  (range_bearing_from_last_position sampleProst [placedReportBytes, [15]]
    northDetectionBytes).1 northDetection _ _ rfl rfl rfl

end PeatSapient.SapientTranslator
