import Mathlib.Tactic.NormNum
import PeatSapient.MergedDocument.Position
import PeatSapient.Translator.Outbound

/-! A track that is relayed: the document that one bridge decodes is encoded by the next,
and decoded behind it. The encoder reads the fields that the projection of a track writes,
the confidence only beside a classification. -/

namespace PeatSapient

open HashMap MergedDocument

variable {F : Type}

def Json.toValue : Json F → JsonValue F
  | .null => .null
  | .number value => .number value
  | .integer value => .integer value
  | .string text => .string text
  | .array texts => .array (texts.map .string)

def MeshDocument.toShared (doc : MeshDocument F) : SharedDocument F :=
  ⟨some doc.id, mapValues Json.toValue doc.fields⟩

variable [FloatOps F]

/-- What is used of the rounding to f32 and of zero. -/
structure RoundingLaws (F : Type) [FloatOps F] : Prop where
  idempotent : ∀ value : F, FloatOps.asF32 (FloatOps.asF32 value) = FloatOps.asF32 value
  zero : FloatOps.asF32 (0.0 : F) = 0.0
  isZero : FloatOps.isZero (0.0 : F) = true
  finite : FloatOps.isFinite (0.0 : F) = true

theorem jsonNumber_finite {value : F} (finite : FloatOps.isFinite value = true) :
    jsonNumber value = .number value := if_pos finite

theorem jsonNumber_infinite {value : F} (infinite : ¬ FloatOps.isFinite value = true) :
    jsonNumber value = .null := if_neg infinite

theorem asF64_jsonNumber (value : F) :
    (jsonNumber value).toValue.asF64 =
      if FloatOps.isFinite value then some value else none := by
  by_cases finite : FloatOps.isFinite value = true
  · simp [jsonNumber_finite finite, finite, Json.toValue, JsonValue.asF64]
  · simp [jsonNumber_infinite finite, finite, Json.toValue, JsonValue.asF64]

theorem number_toShared (doc : MeshDocument F) (name : String) :
    doc.toShared.number name =
      (doc.fields.lookup name).bind fun value => value.toValue.asF64 := by
  simp [SharedDocument.number, MeshDocument.toShared, Option.bind_map]

def relayedTrack (nodeId : String) (doc : SharedDocument F) (objectId : String)
    (lat lon : F) : Track F :=
  let placed := resolved lat lon (FloatOps.asF32 ((doc.number "hae").getD 0.0)) 0.0 0.0
    (FloatOps.asF32 0.0) 1
  trackOf nodeId
    { objectId := some objectId
      locationOneof := some (.location (doc.location lat lon))
      classification := doc.classification }
    placed.1 placed.2

def SharedDocument.classificationText (doc : SharedDocument F) : Option String :=
  (doc.fields.lookup "sapient_classification").bind JsonValue.asStr

theorem SharedDocument.classification_eq (doc : SharedDocument F) :
    doc.classification = (doc.classificationText.map fun cls =>
      { type := some cls
        confidence := (doc.number "sapient_confidence").map FloatOps.asF32 }).toList := by
  unfold SharedDocument.classification SharedDocument.classificationText
  cases (doc.fields.lookup "sapient_classification").bind JsonValue.asStr <;> rfl

section RelayedTrack

variable (nodeId : String) (doc : SharedDocument F) (objectId : String) (lat lon : F)

theorem relayedTrack_classification :
    (relayedTrack nodeId doc objectId lat lon).classification =
      doc.classificationText.getD "" := by
  simp only [relayedTrack, trackOf, doc.classification_eq]
  cases doc.classificationText <;> rfl

theorem relayedTrack_confidence :
    (relayedTrack nodeId doc objectId lat lon).confidence =
      if doc.classificationText.isSome then
        ((doc.number "sapient_confidence").map FloatOps.asF32).getD 0.0
      else 0.0 := by
  simp only [relayedTrack, trackOf, doc.classification_eq]
  cases doc.classificationText <;> rfl

theorem relayedTrack_field (key : String) :
    trackField key (relayedTrack nodeId doc objectId lat lon) =
      if key = "sapient_source_node_id" then
        sourceField (relayedTrack nodeId doc objectId lat lon)
      else if key = "sapient_confidence" then
        some (jsonNumber (relayedTrack nodeId doc objectId lat lon).confidence)
      else if key = "sapient_classification" then
        classificationField (relayedTrack nodeId doc objectId lat lon)
      else if key = "timestamp_ms" then none
      else positionField key ⟨lat, lon, FloatOps.asF32 ((doc.number "hae").getD 0.0)⟩ := rfl

end RelayedTrack

/-- The message of an accepted document decodes to the relayed track. -/
theorem decodeMessage_outbound {doc : SharedDocument F} {ctx : TranslationContext}
    {msg : SapientMessage F} {lat lon : F} (accepted : outboundMessage doc ctx = some msg)
    (north : doc.number "lat" = some lat) (east : doc.number "lon" = some lon)
    (translator : SapientTranslator F) :
    ∃ nodeId objectId, doc.id = some objectId ∧
      (translator.decodeMessage msg).1 = .ok (some (documentFromFields
        (trackToFields (relayedTrack nodeId doc objectId lat lon)))) := by
  obtain ⟨_, objectId, lat', lon', named, north', east', rfl⟩ := outboundMessage_some accepted
  rw [north] at north'
  rw [east] at east'
  cases north'
  cases east'
  exact ⟨_, objectId, named, rfl⟩

/-- The track of a detection: nothing is known of when it was seen, and its altitude is
an f32. -/
structure Detected (track : Track F) (pos : TrackPosition F) : Prop where
  unseen : track.lastSeen = none
  position : track.position = some pos
  altitude : FloatOps.asF32 pos.altitude = pos.altitude

/-- Coordinates that are numbers in the document: nothing in it is null. -/
structure FiniteCoordinates (doc : MeshDocument F) : Prop where
  lat : doc.fields.lookup "lat" ≠ some .null
  lon : doc.fields.lookup "lon" ≠ some .null
  hae : doc.fields.lookup "hae" ≠ some .null

def trackDocument (track : Track F) : MeshDocument F := documentFromFields (trackToFields track)

theorem lookup_trackDocument (track : Track F) (key : String) :
    (trackDocument track).fields.lookup key = trackField key track :=
  lookup_trackToFields track key

theorem jsonNumber_ne_null {value : F} (legible : jsonNumber value ≠ .null) :
    FloatOps.isFinite value = true := by
  by_contra infinite
  exact legible (jsonNumber_infinite infinite)

theorem number_of_field {track : Track F} {name : String} {value : F}
    (field : trackField name track = some (jsonNumber value)) :
    (trackDocument track).toShared.number name =
      if FloatOps.isFinite value then some value else none := by
  rw [number_toShared, lookup_trackDocument, field, Option.bind_some, asF64_jsonNumber]

theorem number_of_legible {track : Track F} {name : String} {value : F}
    (field : trackField name track = some (jsonNumber value))
    (legible : (trackDocument track).fields.lookup name ≠ some .null) :
    (trackDocument track).toShared.number name = some value := by
  rw [lookup_trackDocument, field, ne_eq, Option.some_inj] at legible
  rw [number_of_field field, if_pos (jsonNumber_ne_null legible)]

namespace Detected

variable {track : Track F} {pos : TrackPosition F}

theorem field_lat (detected : Detected track pos) :
    trackField "lat" track = some (jsonNumber pos.latitude) := by
  simp [trackField, placeField, detected.position, positionField]

theorem field_lon (detected : Detected track pos) :
    trackField "lon" track = some (jsonNumber pos.longitude) := by
  simp [trackField, placeField, detected.position, positionField]

theorem field_hae (detected : Detected track pos) :
    trackField "hae" track = haeField pos.altitude := by
  simp [trackField, placeField, detected.position, positionField]

theorem relayed_hae (laws : RoundingLaws F) (detected : Detected track pos)
    (finite : FiniteCoordinates (trackDocument track)) :
    haeField (FloatOps.asF32
      (((trackDocument track).toShared.number "hae").getD 0.0)) = haeField pos.altitude := by
  have legible := finite.hae
  rw [lookup_trackDocument, detected.field_hae] at legible
  rw [number_toShared, lookup_trackDocument, detected.field_hae]
  unfold haeField at legible ⊢
  by_cases zero : FloatOps.isZero pos.altitude = true
  · simp [zero, laws.zero, laws.isZero]
  · simp only [zero, Bool.false_eq_true, if_false, ne_eq, Option.some_inj] at legible
    simp [zero, asF64_jsonNumber, jsonNumber_ne_null legible, detected.altitude]

end Detected

theorem classificationText_trackDocument (track : Track F) :
    (trackDocument track).toShared.classificationText =
      if track.classification.isEmpty then none else some track.classification := by
  have field : (trackDocument track).fields.lookup "sapient_classification" =
      classificationField track := lookup_trackDocument track "sapient_classification"
  simp only [SharedDocument.classificationText, MeshDocument.toShared, lookup_mapValues, field,
    classificationField]
  split <;> rfl

theorem confidence_trackDocument (track : Track F) :
    (trackDocument track).toShared.number "sapient_confidence" =
      if FloatOps.isFinite track.confidence then some track.confidence else none :=
  number_of_field rfl

def SameTrack (before after : MeshDocument F) : Prop :=
  after.id = before.id ∧ ∀ key, key ≠ "sapient_source_node_id" →
    after.fields.lookup key = before.fields.lookup key

/-- A confidence that the encoder keeps: beside a classification it has to be a number, and
without one it has to be the zero that a decoder takes for a missing one. -/
def ConfidenceKept (classification : String) (confidence : F) : Prop :=
  if classification.isEmpty then confidence = 0.0
  else FloatOps.isFinite confidence = true

theorem jsonNumber_inj {left right : F} (finite : FloatOps.isFinite left = true) :
    jsonNumber left = jsonNumber right ↔ left = right := by
  constructor
  · intro same
    rw [jsonNumber_finite finite] at same
    unfold jsonNumber at same
    split at same
    · cases same
      rfl
    · cases same
  · rintro rfl
    rfl

theorem relayed_confidence_iff (laws : RoundingLaws F) {track : Track F}
    (single : FloatOps.asF32 track.confidence = track.confidence)
    (nodeId objectId : String) (lat lon : F) :
    jsonNumber (relayedTrack nodeId (trackDocument track).toShared objectId lat lon).confidence =
      jsonNumber track.confidence ↔
        ConfidenceKept track.classification track.confidence := by
  rw [relayedTrack_confidence, classificationText_trackDocument, confidence_trackDocument]
  unfold ConfidenceKept
  by_cases unclassified : track.classification.isEmpty = true
  · simp only [unclassified, if_true, Option.isSome_none, Bool.false_eq_true, if_false]
    rw [jsonNumber_inj laws.finite]
    exact eq_comm
  · by_cases finite : FloatOps.isFinite track.confidence = true
    · simp [unclassified, finite, single]
    · simp only [unclassified, finite, Bool.false_eq_true, if_false, Option.isSome_some, if_true,
        Option.map_none, Option.getD_none, iff_false]
      rw [jsonNumber_finite laws.finite, jsonNumber_infinite finite]
      simp

theorem relayed_classification (nodeId objectId : String) (track : Track F) (lat lon : F) :
    (relayedTrack nodeId (trackDocument track).toShared objectId lat lon).classification =
      track.classification := by
  rw [relayedTrack_classification, classificationText_trackDocument]
  split
  · next unclassified => exact (String.isEmpty_iff.mp unclassified).symm
  · rfl

theorem sameTrack_iff (laws : RoundingLaws F) {track : Track F} {pos : TrackPosition F}
    (detected : Detected track pos) (finite : FiniteCoordinates (trackDocument track))
    (single : FloatOps.asF32 track.confidence = track.confidence) (nodeId : String) :
    SameTrack (trackDocument track) (trackDocument
        (relayedTrack nodeId (trackDocument track).toShared track.trackId pos.latitude
          pos.longitude)) ↔ ConfidenceKept track.classification track.confidence := by
  rw [← relayed_confidence_iff laws single nodeId track.trackId pos.latitude pos.longitude]
  constructor
  · rintro ⟨_, fields⟩
    have confidence := fields "sapient_confidence" (by decide)
    rw [lookup_trackDocument, lookup_trackDocument] at confidence
    exact Option.some_inj.mp confidence
  · intro confidence
    constructor
    · rfl
    · intro key elsewhere
      rw [lookup_trackDocument, lookup_trackDocument, relayedTrack_field]
      simp only [trackField, placeField, elsewhere, if_false, detected.unseen, Option.map_none,
        detected.position, Option.bind_some]
      split
      · rw [confidence]
      split
      · rw [classificationField, relayed_classification, classificationField]
      split
      · rfl
      · simp only [positionField, detected.relayed_hae laws finite]

/-- Each coordinate system ends with an altitude that was rounded. -/
theorem locationToTrackPosition_altitude {loc : Location F}
    {placed : TrackPosition F × PositionError F}
    (located : locationToTrackPosition loc = .ok placed) :
    ∃ value, placed.1.altitude = FloatOps.asF32 value := by
  simp only [locationToTrackPosition] at located
  split at located
  · cases located
  · split at located
    · cases located
    · -- The two deprecated systems come before those of the enum.
      split at located
      · cases located
        exact ⟨_, rfl⟩
      · split at located
        · cases located
          exact ⟨_, rfl⟩
        · split at located
          · cases located
            exact ⟨_, rfl⟩
          · cases located
            exact ⟨_, rfl⟩
          · split at located
            · cases located
            · split at located
              · cases located
              · cases located
                exact ⟨_, rfl⟩
          · cases located

theorem rangeBearingToTrackPosition_altitude {rb : RangeBearing F} {sensor : TrackPosition F}
    {placed : TrackPosition F × PositionError F}
    (located : rangeBearingToTrackPosition rb sensor = .ok placed) :
    ∃ value, placed.1.altitude = FloatOps.asF32 value := by
  simp only [rangeBearingToTrackPosition] at located
  split at located
  · cases located
  · cases located
    exact ⟨_, rfl⟩

theorem detectionPosition_altitude (laws : RoundingLaws F)
    {sensorPosition : Option (TrackPosition F)} {dr : DetectionReport F}
    {pos : TrackPosition F} {error : PositionError F}
    (placed : detectionPosition sensorPosition dr = .ok (pos, error)) :
    FloatOps.asF32 pos.altitude = pos.altitude := by
  have rounded : ∃ value, pos.altitude = FloatOps.asF32 value := by
    unfold detectionPosition at placed
    split at placed
    · exact locationToTrackPosition_altitude placed
    · split at placed
      · cases placed
      · exact rangeBearingToTrackPosition_altitude placed
    · cases placed
  obtain ⟨value, altitude⟩ := rounded
  rw [altitude, laws.idempotent]

def ExactFor (prost : Codec.Prost (SapientMessage F)) (doc : SharedDocument F)
    (ctx : TranslationContext) : Prop :=
  ∀ msg, outboundMessage doc ctx = some msg → prost.decode (prost.encodeToVec msg) = .ok msg

theorem decodeInbound_of_decode {prost : Codec.Prost (SapientMessage F)} {bytes : Codec.Bytes}
    {msg : SapientMessage F} (decoded : prost.decode bytes = .ok msg)
    (translator : SapientTranslator F) :
    translator.decodeInbound prost bytes = translator.decodeMessage msg := by
  rw [SapientTranslator.decodeInbound, decoded]

/-- The bytes of an accepted document decode to the document of the relayed track. -/
theorem decodeInbound_outbound {prost : Codec.Prost (SapientMessage F)}
    {doc : SharedDocument F} {ctx : TranslationContext} {bytes : Codec.Bytes} {lat lon : F}
    (encoded : encodeOutbound prost doc ctx = some bytes) (lossless : ExactFor prost doc ctx)
    (north : doc.number "lat" = some lat) (east : doc.number "lon" = some lon)
    (translator : SapientTranslator F) :
    ∃ nodeId objectId, doc.id = some objectId ∧
      (translator.decodeInbound prost bytes).1 =
        .ok (some (trackDocument (relayedTrack nodeId doc objectId lat lon))) := by
  obtain ⟨msg, accepted, rfl⟩ := Option.map_eq_some_iff.mp encoded
  rw [decodeInbound_of_decode (lossless msg accepted)]
  exact decodeMessage_outbound accepted north east translator

theorem relayedTrack_detected (laws : RoundingLaws F) (nodeId : String)
    (doc : SharedDocument F) (objectId : String) (lat lon : F) :
    ∃ pos, Detected (relayedTrack nodeId doc objectId lat lon) pos ∧ pos.latitude = lat ∧
      pos.longitude = lon ∧
        pos.altitude = FloatOps.asF32 ((doc.number "hae").getD 0.0) :=
  ⟨_, ⟨rfl, rfl, laws.idempotent _⟩, rfl, rfl, rfl⟩

theorem readsHae_haeField {altitude : F} (finite : FloatOps.isFinite altitude = true) :
    readsHae (haeField altitude) altitude := by
  unfold haeField
  split
  · next zero => exact zero
  · rw [jsonNumber_finite finite]
    exact rfl

theorem position_relayed (laws : RoundingLaws F) {prost : Codec.Prost (SapientMessage F)}
    {doc : SharedDocument F} {ctx : TranslationContext} {bytes : Codec.Bytes} {lat lon : F}
    (encoded : encodeOutbound prost doc ctx = some bytes) (lossless : ExactFor prost doc ctx)
    (north : doc.number "lat" = some lat) (east : doc.number "lon" = some lon)
    (finiteLat : FloatOps.isFinite lat = true) (finiteLon : FloatOps.isFinite lon = true)
    (finiteHae : FloatOps.isFinite (FloatOps.asF32 ((doc.number "hae").getD 0.0)) = true)
    (translator : SapientTranslator F) :
    ∃ again, (translator.decodeInbound prost bytes).1 = .ok (some again) ∧
      some again.id = doc.id ∧ again.toShared.number "lat" = some lat ∧
        again.toShared.number "lon" = some lon ∧
          readsHae (again.fields.lookup "hae")
            (FloatOps.asF32 ((doc.number "hae").getD 0.0)) := by
  obtain ⟨nodeId, objectId, named, decoded⟩ :=
    decodeInbound_outbound encoded lossless north east translator
  obtain ⟨pos, detected, latitude, longitude, altitude⟩ :=
    relayedTrack_detected laws nodeId doc objectId lat lon
  refine ⟨_, decoded, named.symm, ?_, ?_, ?_⟩
  · rw [number_of_field detected.field_lat, latitude, if_pos finiteLat]
  · rw [number_of_field detected.field_lon, longitude, if_pos finiteLon]
  · rw [lookup_trackDocument, detected.field_hae, altitude]
    exact readsHae_haeField finiteHae

def reportedType (dr : DetectionReport F) : String :=
  (dr.classification.head?.bind DetectionReportClassification.type).getD ""

def reportedConfidence (dr : DetectionReport F) : F :=
  (dr.classification.head?.bind DetectionReportClassification.confidence).getD 0.0

def SingleConfidences (dr : DetectionReport F) : Prop :=
  ∀ classification ∈ dr.classification, ∀ confidence,
    classification.confidence = some confidence → FloatOps.asF32 confidence = confidence

theorem reportedConfidence_single (laws : RoundingLaws F) {dr : DetectionReport F}
    (singles : SingleConfidences dr) :
    FloatOps.asF32 (reportedConfidence dr) = reportedConfidence dr := by
  unfold reportedConfidence
  cases head : dr.classification.head? with
  | none => exact laws.zero
  | some classification =>
      cases given : classification.confidence with
      | none => simpa [given] using laws.zero
      | some confidence =>
          have listed := List.mem_of_head? head
          simpa [given] using singles classification listed confidence given

theorem decodeInbound_report (laws : RoundingLaws F) {prost : Codec.Prost (SapientMessage F)}
    {translator : SapientTranslator F} {received : Codec.Bytes} {msg : SapientMessage F}
    {dr : DetectionReport F} {doc : MeshDocument F}
    (decoded : prost.decode received = .ok msg)
    (content : msg.content = some (.detectionReport dr))
    (mapped : (translator.decodeInbound prost received).1 = .ok (some doc)) :
    ∃ track pos, doc = trackDocument track ∧ Detected track pos ∧
      track.classification = reportedType dr ∧ track.confidence = reportedConfidence dr := by
  rw [decodeInbound_of_decode decoded] at mapped
  simp only [SapientTranslator.decodeMessage, content, fromDetectionReport] at mapped
  cases placed : detectionPosition (translator.cachedPosition msg.sender) dr with
  | error cause =>
      simp only [placed] at mapped
      cases mapped
  | ok position =>
      simp only [placed] at mapped
      cases mapped
      have altitude := detectionPosition_altitude laws placed
      exact ⟨_, position.1, rfl, ⟨rfl, rfl, altitude⟩, rfl, rfl⟩

theorem outboundMessage_accepts {doc : SharedDocument F} {ctx : TranslationContext}
    {objectId : String} {lat lon : F}
    (tracks : ctx.collection = some SapientTranslator.tracksCollection)
    (named : doc.id = some objectId) (north : doc.number "lat" = some lat)
    (east : doc.number "lon" = some lon) : ∃ msg, outboundMessage doc ctx = some msg := by
  simp [outboundMessage, tracks, named, north, east]

/-- A document that was decoded from a detection is the same again after it was relayed,
apart from the node that it comes from, exactly where its confidence is kept. -/
theorem detection_relayed_iff (laws : RoundingLaws F)
    {prost : Codec.Prost (SapientMessage F)} {translator : SapientTranslator F}
    {received : Codec.Bytes} {msg : SapientMessage F} {dr : DetectionReport F}
    {doc : MeshDocument F} {ctx : TranslationContext} (decoded : prost.decode received = .ok msg)
    (content : msg.content = some (.detectionReport dr)) (singles : SingleConfidences dr)
    (mapped : (translator.decodeInbound prost received).1 = .ok (some doc))
    (finite : FiniteCoordinates doc)
    (tracks : ctx.collection = some SapientTranslator.tracksCollection)
    (lossless : ExactFor prost doc.toShared ctx) (next : SapientTranslator F) :
    (∃ bytes again, encodeOutbound prost doc.toShared ctx = some bytes ∧
      (next.decodeInbound prost bytes).1 = .ok (some again) ∧ SameTrack doc again) ↔
        ConfidenceKept (reportedType dr) (reportedConfidence dr) := by
  obtain ⟨track, pos, rfl, detected, classification, confidence⟩ :=
    decodeInbound_report laws decoded content mapped
  have single := reportedConfidence_single laws singles
  rw [← confidence] at single ⊢
  rw [← classification]
  have north := number_of_legible detected.field_lat finite.lat
  have east := number_of_legible detected.field_lon finite.lon
  constructor
  · rintro ⟨bytes, again, encoded, answered, same⟩
    obtain ⟨nodeId, objectId, named, relayed⟩ :=
      decodeInbound_outbound encoded lossless north east next
    cases named
    rw [relayed] at answered
    cases answered
    exact (sameTrack_iff laws detected finite single nodeId).mp same
  · intro kept
    obtain ⟨msg, accepted⟩ := outboundMessage_accepts tracks rfl north east
    have encoded : encodeOutbound prost (trackDocument track).toShared ctx =
        some (prost.encodeToVec msg) := by
      rw [encodeOutbound, accepted, Option.map_some]
    obtain ⟨nodeId, objectId, named, relayed⟩ :=
      decodeInbound_outbound encoded lossless north east next
    cases named
    exact ⟨_, _, encoded, relayed, (sameTrack_iff laws detected finite single nodeId).mpr kept⟩

/-- What a relay keeps. Of any accepted document the id and the position come back; and a
document that was decoded from a detection comes back whole exactly where its confidence is
one that the encoder keeps. -/
theorem relay_iff (laws : RoundingLaws F) (prost : Codec.Prost (SapientMessage F)) :
    (∀ (translator : SapientTranslator F) (doc : SharedDocument F) (ctx : TranslationContext)
        (bytes : Codec.Bytes) (lat lon : F), encodeOutbound prost doc ctx = some bytes →
      ExactFor prost doc ctx → doc.number "lat" = some lat → doc.number "lon" = some lon →
      FloatOps.isFinite lat = true → FloatOps.isFinite lon = true →
      FloatOps.isFinite (FloatOps.asF32 ((doc.number "hae").getD 0.0)) = true →
      ∃ again, (translator.decodeInbound prost bytes).1 = .ok (some again) ∧
        some again.id = doc.id ∧ again.toShared.number "lat" = some lat ∧
          again.toShared.number "lon" = some lon ∧
            readsHae (again.fields.lookup "hae")
              (FloatOps.asF32 ((doc.number "hae").getD 0.0))) ∧
    ∀ (translator next : SapientTranslator F) (received : Codec.Bytes) (msg : SapientMessage F)
        (dr : DetectionReport F) (doc : MeshDocument F) (ctx : TranslationContext),
      prost.decode received = .ok msg → msg.content = some (.detectionReport dr) →
      SingleConfidences dr → (translator.decodeInbound prost received).1 = .ok (some doc) →
      FiniteCoordinates doc → ctx.collection = some SapientTranslator.tracksCollection →
      ExactFor prost doc.toShared ctx →
      ((∃ bytes again, encodeOutbound prost doc.toShared ctx = some bytes ∧
        (next.decodeInbound prost bytes).1 = .ok (some again) ∧ SameTrack doc again) ↔
          ConfidenceKept (reportedType dr) (reportedConfidence dr)) := by
  constructor
  · intro translator doc ctx bytes lat lon encoded lossless north east finiteLat finiteLon finiteHae
    exact position_relayed laws encoded lossless north east finiteLat finiteLon finiteHae translator
  · intro translator next received msg dr doc ctx decoded content singles mapped finite tracks
      lossless
    exact detection_relayed_iff laws decoded content singles mapped finite tracks lossless next

theorem exact_laws : RoundingLaws (Exact identities) where
  idempotent _ := rfl
  zero := rfl
  isZero := by
    have zero : (0.0 : ℚ) = 0 := by norm_num
    exact decide_eq_true zero
  finite := rfl

def sightingType (classified : Bool) : Option String := if classified then some "p" else none

def sighting (classified : Bool) : DetectionReport (Exact identities) where
  objectId := some "t"
  locationOneof := some (.location {
    x := some (.ofRat 2)
    y := some (.ofRat 1)
    z := some (.ofRat 120)
    coordinateSystem := some 1 })
  classification :=
    [{ type := sightingType classified, confidence := some (.ofRat (1 / 2)) }]

def sightingMessage (classified : Bool) : SapientMessage (Exact identities) where
  nodeId := some "a"
  content := some (.detectionReport (sighting classified))

def sightingDocument (classified : Bool) : MeshDocument (Exact identities) :=
  let placed := resolved (.ofRat 1) (.ofRat 2) (.ofRat 120) 0.0 0.0 0.0 1
  trackDocument (trackOf "a" (sighting classified) placed.1 placed.2)

def relayContext : TranslationContext := ⟨some "tracks", some "b"⟩

def relayMessage (classified : Bool) : SapientMessage (Exact identities) where
  nodeId := some "b"
  content := some (.detectionReport {
    objectId := some "t"
    locationOneof := some (.location {
      x := some (.ofRat 2)
      y := some (.ofRat 1)
      z := some (.ofRat 120)
      coordinateSystem := some 1
      datum := some 1 })
    classification := (sightingType classified).toList.map fun text =>
      { type := some text, confidence := some (.ofRat (1 / 2)) } })

def coordinateBytes : Codec.Bytes :=
  [0x09, 0, 0, 0, 0, 0, 0, 0, 0x40, 0x11, 0, 0, 0, 0, 0, 0, 0xf0, 0x3f,
    0x19, 0, 0, 0, 0, 0, 0, 0x5e, 0x40, 0x38, 1]

def sightingBytes (classified : Bool) : Codec.Bytes :=
  [0x12, 1, 0x61, 0x3a, if classified then 44 else 41, 0x12, 1, 0x74, 0x32, 29] ++
    coordinateBytes ++
    if classified then [0x5a, 8, 0x0a, 1, 0x70, 0x15, 0, 0, 0, 0x3f]
    else [0x5a, 5, 0x15, 0, 0, 0, 0x3f]

def relayBytes (classified : Bool) : Codec.Bytes :=
  [0x12, 1, 0x62, 0x3a, if classified then 46 else 36, 0x12, 1, 0x74, 0x32, 31] ++
    coordinateBytes ++ [0x40, 1] ++
    if classified then [0x5a, 8, 0x0a, 1, 0x70, 0x15, 0, 0, 0, 0x3f] else []

def sightingProst (classified : Bool) : Codec.Prost (SapientMessage (Exact identities)) where
  encodeToVec _ := relayBytes classified
  decode bytes :=
    if bytes = sightingBytes classified then .ok (sightingMessage classified)
    else if bytes = relayBytes classified then .ok (relayMessage classified)
    else .error ⟨"invalid wire type"⟩

theorem sighting_decoded (classified : Bool) :
    (SapientTranslator.new.decodeInbound (sightingProst classified)
      (sightingBytes classified)).1 = .ok (some (sightingDocument classified)) := by
  cases classified <;> rfl

theorem sighting_encoded (classified : Bool) :
    outboundMessage (sightingDocument classified).toShared relayContext =
      some (relayMessage classified) := by
  cases classified <;> rfl

theorem sighting_exact (classified : Bool) :
    ExactFor (sightingProst classified) (sightingDocument classified).toShared relayContext := by
  intro msg accepted
  rw [sighting_encoded] at accepted
  cases accepted
  cases classified <;> rfl

theorem sighting_finite (classified : Bool) : FiniteCoordinates (sightingDocument classified) := by
  have lat : (sightingDocument classified).fields.lookup "lat" = some (.number (.ofRat 1)) := by
    cases classified <;> rfl
  have lon : (sightingDocument classified).fields.lookup "lon" = some (.number (.ofRat 2)) := by
    cases classified <;> rfl
  have hae : (sightingDocument classified).fields.lookup "hae" =
      some (.number (.ofRat 120)) := by
    cases classified <;> rfl
  constructor <;> simp [lat, lon, hae]

theorem sighting_single (classified : Bool) : SingleConfidences (sighting classified) :=
  fun _ _ _ _ => rfl

/-- A classified detection is relayed whole, and its position is the same again. -/
theorem relay_iff_sighting :
    (∃ again, (SapientTranslator.new.decodeInbound (sightingProst true) (relayBytes true)).1 =
      .ok (some again) ∧ some again.id = (sightingDocument true).toShared.id) ∧
    ∃ bytes again, encodeOutbound (sightingProst true) (sightingDocument true).toShared
        relayContext = some bytes ∧
      (SapientTranslator.new.decodeInbound (sightingProst true) bytes).1 = .ok (some again) ∧
        SameTrack (sightingDocument true) again := by
  have both := relay_iff exact_laws (sightingProst true)
  constructor
  · obtain ⟨again, decoded, named, _⟩ := both.1 .new (sightingDocument true).toShared
      relayContext (relayBytes true) (.ofRat 1) (.ofRat 2) rfl (sighting_exact true) rfl rfl
      rfl rfl rfl
    exact ⟨again, decoded, named⟩
  · exact (both.2 .new .new (sightingBytes true) (sightingMessage true) (sighting true)
      (sightingDocument true) relayContext rfl rfl (sighting_single true)
      (sighting_decoded true) (sighting_finite true) rfl (sighting_exact true)).mpr rfl

/-- A detection of half a confidence without a type loses it. -/
theorem confidence_lost :
    SingleConfidences (sighting false) ∧
    (SapientTranslator.new.decodeInbound (sightingProst false) (sightingBytes false)).1 =
      .ok (some (sightingDocument false)) ∧ FiniteCoordinates (sightingDocument false) ∧
    ExactFor (sightingProst false) (sightingDocument false).toShared relayContext ∧
    ¬ ∃ bytes again, encodeOutbound (sightingProst false) (sightingDocument false).toShared
        relayContext = some bytes ∧
      (SapientTranslator.new.decodeInbound (sightingProst false) bytes).1 = .ok (some again) ∧
        SameTrack (sightingDocument false) again := by
  refine ⟨sighting_single false, sighting_decoded false, sighting_finite false,
    sighting_exact false, ?_⟩
  intro whole
  have kept := (detection_relayed_iff exact_laws rfl rfl (sighting_single false)
    (sighting_decoded false) (sighting_finite false) rfl (sighting_exact false) .new).mp whole
  have half : (1 / 2 : ℚ) ≠ 0.0 := by norm_num
  exact half kept

end PeatSapient
