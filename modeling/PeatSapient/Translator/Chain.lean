import PeatSapient.Translator.Relay

/-! A chain of bridges: each encodes the tracks document it has, and the next one decodes
it. The first hop rounds and drops; the second may drop a confidence that no
classification holds. From there on a track comes out as it went in. -/

namespace PeatSapient

open HashMap MergedDocument

variable {F : Type} [FloatOps F]

/-- The context that a document is encoded in, and the translator behind it. -/
structure Hop (F : Type) where
  ctx : TranslationContext
  next : SapientTranslator F

def Hop.relay (hop : Hop F) (prost : Codec.Prost (SapientMessage F)) (doc : SharedDocument F) :
    Option (MeshDocument F) :=
  (encodeOutbound prost doc hop.ctx).bind fun bytes =>
    match (hop.next.decodeInbound prost bytes).1 with
    | .ok again => again
    | .error _ => none

inductive Relayed (prost : Codec.Prost (SapientMessage F)) (doc : SharedDocument F) :
    List (Hop F) → MeshDocument F → Prop where
  | first {hop : Hop F} {again : MeshDocument F} (lossless : ExactFor prost doc hop.ctx)
      (taken : hop.relay prost doc = some again) : Relayed prost doc [hop] again
  | next {hop : Hop F} {hops : List (Hop F)} {before again : MeshDocument F}
      (earlier : Relayed prost doc hops before)
      (lossless : ExactFor prost before.toShared hop.ctx)
      (taken : hop.relay prost before.toShared = some again) :
      Relayed prost doc (hop :: hops) again

def Hop.wireId (hop : Hop F) : String := hop.ctx.localWireId.getD ""

theorem Hop.relay_some {hop : Hop F} {prost : Codec.Prost (SapientMessage F)}
    {doc : SharedDocument F} {again : MeshDocument F} (lossless : ExactFor prost doc hop.ctx)
    (taken : hop.relay prost doc = some again) :
    ∃ objectId lat lon, doc.id = some objectId ∧ doc.number "lat" = some lat ∧
      doc.number "lon" = some lon ∧
        again = trackDocument (relayedTrack hop.wireId doc objectId lat lon) := by
  obtain ⟨bytes, encoded, answered⟩ := Option.bind_eq_some_iff.mp taken
  obtain ⟨msg, accepted, rfl⟩ := Option.map_eq_some_iff.mp encoded
  rw [decodeInbound_of_decode (lossless msg accepted)] at answered
  obtain ⟨_, objectId, lat, lon, named, north, east, rfl⟩ := outboundMessage_some accepted
  cases answered
  exact ⟨objectId, lat, lon, named, north, east, rfl⟩

theorem Hop.relay_accepts {hop : Hop F} {prost : Codec.Prost (SapientMessage F)}
    {doc : SharedDocument F} {objectId : String} {lat lon : F}
    (tracks : hop.ctx.collection = some SapientTranslator.tracksCollection)
    (lossless : ExactFor prost doc hop.ctx) (named : doc.id = some objectId)
    (north : doc.number "lat" = some lat) (east : doc.number "lon" = some lon) :
    ∃ again, hop.relay prost doc = some again := by
  obtain ⟨msg, accepted⟩ := outboundMessage_accepts tracks named north east
  obtain ⟨nodeId, _, _, decoded⟩ :=
    decodeMessage_outbound accepted north east hop.next
  rw [← decodeInbound_of_decode (lossless msg accepted)] at decoded
  constructor
  simp only [relay, encodeOutbound, accepted, Option.map_some, Option.bind_some, decoded]
  rfl

/-- What every hop leaves: the coordinates are numbers, altitude and confidence f32. -/
structure Rounded (track : Track F) (pos : TrackPosition F) : Prop where
  detected : Detected track pos
  lat : FloatOps.isFinite pos.latitude = true
  lon : FloatOps.isFinite pos.longitude = true
  single : FloatOps.asF32 track.confidence = track.confidence

/-- What two hops leave: nothing in it is lost again. -/
structure Settled (track : Track F) (pos : TrackPosition F) : Prop where
  rounded : Rounded track pos
  hae : FloatOps.isFinite pos.altitude = true
  kept : ConfidenceKept track.classification track.confidence

namespace Rounded

variable {track : Track F} {pos : TrackPosition F}

theorem number_lat (rounded : Rounded track pos) :
    (trackDocument track).toShared.number "lat" = some pos.latitude := by
  rw [number_of_field rounded.detected.field_lat, if_pos rounded.lat]

theorem number_lon (rounded : Rounded track pos) :
    (trackDocument track).toShared.number "lon" = some pos.longitude := by
  rw [number_of_field rounded.detected.field_lon, if_pos rounded.lon]

/-- The altitude that the next hop reads: a null or a missing one is zero. -/
theorem number_hae (laws : RoundingLaws F) (rounded : Rounded track pos) :
    FloatOps.asF32 (((trackDocument track).toShared.number "hae").getD 0.0) = 0.0 ∨
      FloatOps.isFinite pos.altitude = true ∧
        FloatOps.asF32 (((trackDocument track).toShared.number "hae").getD 0.0) =
          pos.altitude := by
  rw [number_toShared, lookup_trackDocument, rounded.detected.field_hae, haeField]
  split
  · left
    exact laws.zero
  · rw [Option.bind_some, asF64_jsonNumber]
    split
    · next finite =>
        right
        exact ⟨finite, rounded.detected.altitude⟩
    · left
      exact laws.zero

end Rounded

section OneHop

variable (nodeId : String) (doc : SharedDocument F) (objectId : String) (lat lon : F)

def relayedPosition (doc : SharedDocument F) (lat lon : F) : TrackPosition F :=
  (resolved lat lon (FloatOps.asF32 ((doc.number "hae").getD 0.0)) 0.0 0.0
    (FloatOps.asF32 0.0) 1).1

theorem relayedTrack_single (laws : RoundingLaws F) :
    FloatOps.asF32 (relayedTrack nodeId doc objectId lat lon).confidence =
      (relayedTrack nodeId doc objectId lat lon).confidence := by
  rw [relayedTrack_confidence]
  split
  · cases doc.number "sapient_confidence" with
    | none => exact laws.zero
    | some confidence => exact laws.idempotent confidence
  · exact laws.zero

theorem relayedTrack_rounded (laws : RoundingLaws F)
    (finiteLat : FloatOps.isFinite lat = true) (finiteLon : FloatOps.isFinite lon = true) :
    Rounded (relayedTrack nodeId doc objectId lat lon) (relayedPosition doc lat lon) where
  detected := ⟨rfl, rfl, laws.idempotent _⟩
  lat := finiteLat
  lon := finiteLon
  single := relayedTrack_single nodeId doc objectId lat lon laws

end OneHop

/-- The second hop settles the track. -/
theorem Rounded.settles (laws : RoundingLaws F) {track : Track F} {pos : TrackPosition F}
    (rounded : Rounded track pos) (nodeId objectId : String) :
    Settled
      (relayedTrack nodeId (trackDocument track).toShared objectId pos.latitude pos.longitude)
      (relayedPosition (trackDocument track).toShared pos.latitude pos.longitude) where
  rounded := relayedTrack_rounded _ _ _ _ _ laws rounded.lat rounded.lon
  hae := by
    change FloatOps.isFinite
      (FloatOps.asF32 (((trackDocument track).toShared.number "hae").getD 0.0)) = true
    rcases rounded.number_hae laws with zero | ⟨finite, same⟩
    · rw [zero]
      exact laws.finite
    · rw [same]
      exact finite
  kept := by
    rw [relayed_classification, relayedTrack_confidence, classificationText_trackDocument,
      confidence_trackDocument, ConfidenceKept]
    by_cases unclassified : track.classification.isEmpty = true
    · simp [unclassified]
    · by_cases finite : FloatOps.isFinite track.confidence = true
      · simp [unclassified, finite, rounded.single]
      · simp [unclassified, finite, laws.finite]

theorem Rounded.finite {track : Track F} {pos : TrackPosition F} (rounded : Rounded track pos)
    (hae : haeField pos.altitude ≠ some .null) : FiniteCoordinates (trackDocument track) := by
  have detected := rounded.detected
  constructor
  · rw [lookup_trackDocument, detected.field_lat, jsonNumber_finite rounded.lat]
    simp
  · rw [lookup_trackDocument, detected.field_lon, jsonNumber_finite rounded.lon]
    simp
  · rw [lookup_trackDocument, detected.field_hae]
    exact hae

theorem haeField_ne_null {altitude : F} (finite : FloatOps.isFinite altitude = true) :
    haeField altitude ≠ some .null := by
  rw [haeField, jsonNumber_finite finite]
  split <;> simp

theorem Settled.sameTrack (laws : RoundingLaws F) {track : Track F} {pos : TrackPosition F}
    (settled : Settled track pos) (nodeId : String) :
    SameTrack (trackDocument track) (trackDocument
      (relayedTrack nodeId (trackDocument track).toShared track.trackId pos.latitude
        pos.longitude)) :=
  (sameTrack_iff laws settled.rounded.detected
    (settled.rounded.finite (haeField_ne_null settled.hae)) settled.rounded.single
    nodeId).mpr settled.kept

omit [FloatOps F] in
theorem SameTrack.trans {first second third : MeshDocument F} (near : SameTrack first second)
    (far : SameTrack second third) : SameTrack first third := by
  constructor
  · rw [far.1, near.1]
  · intro key elsewhere
    rw [far.2 key elsewhere, near.2 key elsewhere]

theorem Rounded.relay_some {hop : Hop F} {prost : Codec.Prost (SapientMessage F)}
    {track : Track F} {pos : TrackPosition F} {again : MeshDocument F}
    (rounded : Rounded track pos)
    (lossless : ExactFor prost (trackDocument track).toShared hop.ctx)
    (taken : hop.relay prost (trackDocument track).toShared = some again) :
    again = trackDocument (relayedTrack hop.wireId (trackDocument track).toShared track.trackId
      pos.latitude pos.longitude) := by
  obtain ⟨objectId, lat, lon, named, north, east, rfl⟩ := hop.relay_some lossless taken
  rw [rounded.number_lat] at north
  rw [rounded.number_lon] at east
  cases named
  cases north
  cases east
  rfl

/-- However many hops follow, a settled track comes out of them as it went in. -/
theorem Settled.relayed (laws : RoundingLaws F) {prost : Codec.Prost (SapientMessage F)}
    {track : Track F} {pos : TrackPosition F} (settled : Settled track pos)
    {hops : List (Hop F)} {later : MeshDocument F}
    (chain : Relayed prost (trackDocument track).toShared hops later) :
    SameTrack (trackDocument track) later ∧
      ∃ final place, later = trackDocument final ∧ Settled final place := by
  induction chain with
  | @first hop again lossless taken =>
      have taken := settled.rounded.relay_some lossless taken
      subst taken
      constructor
      · exact settled.sameTrack laws hop.wireId
      · exact ⟨_, _, rfl, settled.rounded.settles laws hop.wireId track.trackId⟩
  | @next hop hops before again earlier lossless taken ih =>
      obtain ⟨same, final, place, rfl, held⟩ := ih
      have taken := held.rounded.relay_some lossless taken
      subst taken
      constructor
      · exact same.trans (held.sameTrack laws hop.wireId)
      · exact ⟨_, _, rfl, held.rounded.settles laws hop.wireId final.trackId⟩

structure Carried (doc : SharedDocument F) (lat lon : F) (hops : List (Hop F))
    (track : Track F) (pos : TrackPosition F) : Prop where
  rounded : Rounded track pos
  named : doc.id = some track.trackId
  latitude : pos.latitude = lat
  longitude : pos.longitude = lon
  altitude : FloatOps.isFinite (FloatOps.asF32 ((doc.number "hae").getD 0.0)) = true →
    haeField pos.altitude = haeField (FloatOps.asF32 ((doc.number "hae").getD 0.0))
  classification : track.classification = doc.classificationText.getD ""
  source : track.source.map TrackSource.nodeId = hops.head?.map Hop.wireId
  settled : 2 ≤ hops.length → Settled track pos

/-- The step and the run: whatever bridges a document comes over, it keeps its id, its
place and its classification, and it names the last of them as its source. -/
theorem Relayed.carried (laws : RoundingLaws F) {prost : Codec.Prost (SapientMessage F)}
    {doc : SharedDocument F} {lat lon : F} (north : doc.number "lat" = some lat)
    (east : doc.number "lon" = some lon) (finiteLat : FloatOps.isFinite lat = true)
    (finiteLon : FloatOps.isFinite lon = true) {hops : List (Hop F)} {final : MeshDocument F}
    (chain : Relayed prost doc hops final) :
    ∃ track pos, final = trackDocument track ∧ Carried doc lat lon hops track pos := by
  induction chain with
  | @first hop again lossless taken =>
      obtain ⟨objectId, lat', lon', named, north', east', rfl⟩ := hop.relay_some lossless taken
      rw [north] at north'
      rw [east] at east'
      cases north'
      cases east'
      refine ⟨_, relayedPosition doc lat lon, rfl, ?_⟩
      constructor
      case rounded => exact relayedTrack_rounded _ _ _ _ _ laws finiteLat finiteLon
      case named => exact named
      case latitude => rfl
      case longitude => rfl
      case altitude => exact fun _ => rfl
      case classification => exact relayedTrack_classification _ _ _ _ _
      case source => rfl
      case settled =>
        intro long
        simp at long
  | @next hop hops before again earlier lossless taken ih =>
      obtain ⟨track, pos, rfl, carried⟩ := ih
      have taken := carried.rounded.relay_some lossless taken
      subst taken
      have settles := carried.rounded.settles laws hop.wireId track.trackId
      refine ⟨_, relayedPosition (trackDocument track).toShared pos.latitude pos.longitude, rfl, ?_⟩
      constructor
      case rounded => exact settles.rounded
      case named => exact carried.named
      case latitude => exact carried.latitude
      case longitude => exact carried.longitude
      case altitude =>
        intro finite
        have legible : haeField pos.altitude ≠ some .null := by
          rw [carried.altitude finite]
          exact haeField_ne_null finite
        rw [← carried.altitude finite]
        exact carried.rounded.detected.relayed_hae laws (carried.rounded.finite legible)
      case classification =>
        rw [relayed_classification]
        exact carried.classification
      case source => rfl
      case settled => exact fun _ => settles

namespace Carried

variable {doc : SharedDocument F} {lat lon : F} {hop : Hop F} {hops : List (Hop F)}
  {track : Track F} {pos : TrackPosition F}

theorem field_source (carried : Carried doc lat lon (hop :: hops) track pos) :
    (trackDocument track).fields.lookup "sapient_source_node_id" =
      if hop.wireId.isEmpty then none else some (.string hop.wireId) := by
  obtain ⟨source, attributed, named⟩ := Option.map_eq_some_iff.mp carried.source
  have field : (trackDocument track).fields.lookup "sapient_source_node_id" =
      sourceField track := lookup_trackDocument track _
  rw [field, sourceField, attributed, Option.bind_some, named]

theorem field_timestamp (carried : Carried doc lat lon hops track pos) :
    (trackDocument track).fields.lookup "timestamp_ms" = none := by
  rw [lookup_trackDocument]
  simp [trackField, carried.rounded.detected.unseen]

theorem field_hae (carried : Carried doc lat lon hops track pos)
    (finite : FloatOps.isFinite (FloatOps.asF32 ((doc.number "hae").getD 0.0)) = true) :
    readsHae ((trackDocument track).fields.lookup "hae")
      (FloatOps.asF32 ((doc.number "hae").getD 0.0)) := by
  rw [lookup_trackDocument, carried.rounded.detected.field_hae, carried.altitude finite]
  exact readsHae_haeField finite

theorem classificationText (carried : Carried doc lat lon hops track pos) :
    (trackDocument track).toShared.classificationText =
      doc.classificationText.filter fun text => !text.isEmpty := by
  rw [classificationText_trackDocument, carried.classification]
  cases doc.classificationText with
  | none => rfl
  | some text => by_cases blank : text.isEmpty = true <;> simp [Option.filter, blank]

end Carried

/-- A chain of bridges of any length. It never refuses a track that it has decoded; id,
place, altitude and classification come out of it as they went in, the time does not, and
the source is the last bridge. From the second hop on nothing but the source changes. -/
theorem relayed_settles (laws : RoundingLaws F) {prost : Codec.Prost (SapientMessage F)}
    {doc : SharedDocument F} {lat lon : F} (north : doc.number "lat" = some lat)
    (east : doc.number "lon" = some lon) (finiteLat : FloatOps.isFinite lat = true)
    (finiteLon : FloatOps.isFinite lon = true) {hop : Hop F} {hops : List (Hop F)}
    {final : MeshDocument F} (chain : Relayed prost doc (hop :: hops) final) :
    (some final.id = doc.id ∧ final.toShared.number "lat" = some lat ∧
      final.toShared.number "lon" = some lon ∧
      (FloatOps.isFinite (FloatOps.asF32 ((doc.number "hae").getD 0.0)) = true →
        readsHae (final.fields.lookup "hae") (FloatOps.asF32 ((doc.number "hae").getD 0.0))) ∧
      final.toShared.classificationText =
        doc.classificationText.filter (fun text => !text.isEmpty)) ∧
    final.fields.lookup "timestamp_ms" = none ∧
    final.fields.lookup "sapient_source_node_id" =
      (if hop.wireId.isEmpty then none else some (.string hop.wireId)) ∧
    (∀ next : Hop F, next.ctx.collection = some SapientTranslator.tracksCollection →
      ExactFor prost final.toShared next.ctx →
      ∃ later, next.relay prost final.toShared = some later) ∧
    (hops ≠ [] → ∀ further later, Relayed prost final.toShared further later →
      SameTrack final later) := by
  obtain ⟨track, pos, rfl, carried⟩ := chain.carried laws north east finiteLat finiteLon
  have latitude := carried.rounded.number_lat
  have longitude := carried.rounded.number_lon
  refine ⟨⟨carried.named.symm, ?_, ?_, carried.field_hae, carried.classificationText⟩,
    carried.field_timestamp, carried.field_source, ?_, ?_⟩
  · rw [latitude, carried.latitude]
  · rw [longitude, carried.longitude]
  · intro next tracks lossless
    exact next.relay_accepts tracks lossless rfl latitude longitude
  · intro several further later onward
    have settled : Settled track pos := by
      apply carried.settled
      cases hops with
      | nil => exact absurd rfl several
      | cons earlier rest => simp
    exact (settled.relayed laws onward).1

def relayHop : Hop (Exact identities) := ⟨relayContext, .new⟩

def relayedDocument (classified : Bool) : MeshDocument (Exact identities) :=
  trackDocument (relayedTrack "b" (sightingDocument classified).toShared "t" (.ofRat 1) (.ofRat 2))

theorem relayed_encoded (classified : Bool) :
    outboundMessage (relayedDocument classified).toShared relayContext =
      some (relayMessage classified) := by
  cases classified <;> rfl

theorem relayed_exact (classified : Bool) :
    ExactFor (sightingProst classified) (relayedDocument classified).toShared relayContext := by
  intro msg accepted
  rw [relayed_encoded] at accepted
  cases accepted
  cases classified <;> rfl

/-- A sighting over two bridges names the second, and comes out of a third as it went in. -/
theorem relayed_settles_sighting :
    (some (relayedDocument true).id = (sightingDocument true).toShared.id ∧
      (relayedDocument true).fields.lookup "sapient_source_node_id" = some (.string "b")) ∧
    ∀ later, relayHop.relay (sightingProst true) (relayedDocument true).toShared = some later →
      SameTrack (relayedDocument true) later := by
  have once : Relayed (sightingProst true) (sightingDocument true).toShared [relayHop]
      (relayedDocument true) := .first (sighting_exact true) rfl
  have again : relayHop.relay (sightingProst true) (relayedDocument true).toShared =
      some (relayedDocument true) := rfl
  have twice := once.next (relayed_exact true) again
  obtain ⟨⟨named, _⟩, _, source, _, onward⟩ :=
    relayed_settles exact_laws rfl rfl rfl rfl twice
  refine ⟨⟨named, source⟩, ?_⟩
  intro later taken
  exact onward (by simp) [relayHop] later (.first (relayed_exact true) taken)

end PeatSapient
