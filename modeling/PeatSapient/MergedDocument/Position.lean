import PeatSapient.MergedDocument
import PeatSapient.Numeric.Exact

/-! The position that a merged document shows. Latitude and longitude are written with
every position; an altitude of zero is left out, and then an earlier one stays. -/

namespace PeatSapient.MergedDocument

open HashMap FieldMerge

variable {F : Type} [FloatOps F]

def reportedPosition : PlatformMessage F → Option (Position F)
  | .registration _ => none
  | .statusReport sr => sr.nodeLocation.bind locationToPosition

def trackPlace (track : Track F) : Option (Position F) :=
  track.position.map fun pos => ⟨pos.latitude, pos.longitude, pos.altitude⟩

def mergedTrack (mesh : MeshMerge F) (tracks : List (Track F)) : Fields F :=
  mergeAll mesh (tracks.map fun track => (documentFromFields (trackToFields track)).fields)

/-- The altitude of a document is this one. `encode_outbound` reads it with `as_f64` and
takes zero where there is no number. -/
def readsHae : Option (Json F) → F → Prop
  | some (.number value), altitude => value = altitude
  | _, altitude => FloatOps.isZero altitude = true

def Shows (fields : Fields F) (pos : Position F) : Prop :=
  fields.lookup "lat" = some (.number pos.latitude) ∧
    fields.lookup "lon" = some (.number pos.longitude) ∧
      readsHae (fields.lookup "hae") pos.altitude

/-- The last altitude that is not zero. -/
def lastNonzero (positions : List (Position F)) : Option F :=
  (positions.filterMap fun pos =>
    if FloatOps.isZero pos.altitude then none else some pos.altitude).getLast?

/-- The last position is finite, and its altitude is not zero after an altitude that is
a number and not zero. -/
def Legible (earlier : List (Position F)) (last : Position F) : Prop :=
  FloatOps.isFinite last.latitude = true ∧ FloatOps.isFinite last.longitude = true ∧
    if FloatOps.isZero last.altitude then
      ∀ altitude, lastNonzero earlier = some altitude → FloatOps.isFinite altitude = false
    else FloatOps.isFinite last.altitude = true

theorem jsonNumber_shown (value : F) :
    jsonNumber value = .number value ↔ FloatOps.isFinite value = true := by
  unfold jsonNumber
  split <;> simp_all

theorem haeField_last (positions : List (Position F)) :
    (positions.filterMap (positionField "hae")).getLast? =
      (lastNonzero positions).map jsonNumber := by
  have fields : positions.filterMap (positionField "hae") =
      (positions.filterMap fun pos =>
        if FloatOps.isZero pos.altitude then none else some pos.altitude).map jsonNumber := by
    rw [List.map_filterMap]
    congr 1
    funext pos
    simp only [positionField, if_true, haeField]
    split <;> rfl
  rw [fields, List.getLast?_map, lastNonzero]

theorem lastNonzero_snoc (earlier : List (Position F)) (last : Position F) :
    lastNonzero (earlier ++ [last]) =
      if FloatOps.isZero last.altitude then lastNonzero earlier else some last.altitude := by
  unfold lastNonzero
  by_cases zero : FloatOps.isZero last.altitude = true
  · simp [List.filterMap_append, zero]
  · simp [List.filterMap_append, zero]

theorem lastNonzero_some {positions : List (Position F)} {altitude : F}
    (found : lastNonzero positions = some altitude) : FloatOps.isZero altitude = false := by
  have member := List.mem_of_getLast? found
  rw [List.mem_filterMap] at member
  obtain ⟨pos, _, kept⟩ := member
  split at kept
  · cases kept
  · next nonzero =>
      cases kept
      simpa using nonzero

/-- The altitude that is written last is read as the last one, if it is legible. -/
theorem readsHae_iff (earlier : List (Position F)) (last : Position F) :
    readsHae ((lastNonzero (earlier ++ [last])).map jsonNumber) last.altitude ↔
      if FloatOps.isZero last.altitude then
        ∀ altitude, lastNonzero earlier = some altitude → FloatOps.isFinite altitude = false
      else FloatOps.isFinite last.altitude = true := by
  rw [lastNonzero_snoc]
  by_cases zero : FloatOps.isZero last.altitude = true
  · simp only [zero, if_true]
    cases found : lastNonzero earlier with
    | none => simp [readsHae, zero]
    | some altitude =>
        have nonzero := lastNonzero_some found
        have different : altitude ≠ last.altitude := by
          intro same
          rw [same, zero] at nonzero
          cases nonzero
        unfold jsonNumber
        cases finite : FloatOps.isFinite altitude <;> simp [readsHae, zero, different, finite]
  · simp only [zero, Bool.false_eq_true, if_false, Option.map_some]
    unfold jsonNumber
    cases finite : FloatOps.isFinite last.altitude <;> simp [readsHae, zero]

/-- A document whose fields come from these positions shows the last one exactly when it
is legible. -/
theorem shows_iff {fields : Fields F} {earlier : List (Position F)} {last : Position F}
    (written : ∀ key ∈ ["lat", "lon", "hae"], fields.lookup key =
      ((earlier ++ [last]).filterMap (positionField key)).getLast?) :
    Shows fields last ↔ Legible earlier last := by
  have lat : fields.lookup "lat" = some (jsonNumber last.latitude) := by
    rw [written "lat" (by simp), List.filterMap_append]
    simp [positionField]
  have lon : fields.lookup "lon" = some (jsonNumber last.longitude) := by
    rw [written "lon" (by simp), List.filterMap_append]
    simp [positionField]
  have hae : fields.lookup "hae" = (lastNonzero (earlier ++ [last])).map jsonNumber := by
    rw [written "hae" (by simp), haeField_last]
  unfold Shows Legible
  rw [lat, lon, hae, readsHae_iff, Option.some_inj, Option.some_inj, jsonNumber_shown,
    jsonNumber_shown]

theorem merged_position (mesh : MeshMerge F) (nodeId : String)
    (history : List (PlatformMessage F)) {key : String} (place : key ∈ ["lat", "lon", "hae"]) :
    (merged mesh nodeId history).lookup key =
      ((history.filterMap reportedPosition).filterMap (positionField key)).getLast? := by
  have other : key ≠ "phase" ∧ key ≠ "health" ∧ key ≠ "operational_status" ∧
      key ≠ "capabilities" := by
    simp only [List.mem_cons, List.not_mem_nil, or_false] at place
    rcases place with rfl | rfl | rfl <;> decide
  have writes : ∀ message : PlatformMessage F,
      (platformDocument nodeId message).fields.lookup key =
        (reportedPosition message).bind (positionField key) := by
    intro message
    cases message with
    | registration reg =>
        simp [platformDocument, documentFromFields, lookup_platformToFields, advertisedField,
          reportedPosition, other]
    | statusReport sr =>
        simp [platformDocument, statusDocument, documentFromFields, lookup_platformToFields,
          advertisedField, stateField, fromStatusReport, nodeStateOf, reportedPosition, other]
  rw [merged, lookup_mergeAll, List.filterMap_map, List.filterMap_filterMap]
  congr 2
  funext message
  exact writes message

theorem mergedTrack_position (mesh : MeshMerge F) (tracks : List (Track F)) {key : String}
    (place : key ∈ ["lat", "lon", "hae"]) :
    (mergedTrack mesh tracks).lookup key =
      ((tracks.filterMap trackPlace).filterMap (positionField key)).getLast? := by
  have other : key ≠ "timestamp_ms" ∧ key ≠ "sapient_classification" ∧
      key ≠ "sapient_confidence" ∧ key ≠ "sapient_source_node_id" := by
    simp only [List.mem_cons, List.not_mem_nil, or_false] at place
    rcases place with rfl | rfl | rfl <;> decide
  have writes : ∀ track : Track F, (trackToFields track).2.lookup key =
      (trackPlace track).bind (positionField key) := by
    intro track
    rw [lookup_trackToFields, trackPlace, Option.bind_map]
    simp [trackField, placeField, other]
  rw [mergedTrack, lookup_mergeAll, List.filterMap_map, List.filterMap_filterMap]
  congr 2
  funext track
  exact writes track

/-- The document shows the last reported position, of a platform or of a track, exactly
when that position is legible after the earlier ones. -/
theorem last_position_shown_iff (mesh : MeshMerge F) (earlier : List (Position F))
    (last : Position F) :
    (∀ nodeId history, history.filterMap reportedPosition = earlier ++ [last] →
      (Shows (merged mesh nodeId history) last ↔ Legible earlier last)) ∧
    ∀ tracks, tracks.filterMap trackPlace = earlier ++ [last] →
      (Shows (mergedTrack mesh tracks) last ↔ Legible earlier last) := by
  constructor
  · intro nodeId history reported
    apply shows_iff
    intro key place
    rw [merged_position mesh nodeId history place, reported]
  · intro tracks reported
    apply shows_iff
    intro key place
    rw [mergedTrack_position mesh tracks place, reported]

def reportFrom (latitude longitude altitude : ℚ) : StatusReport (Exact identities) where
  nodeLocation := some {
    x := some (.ofRat longitude)
    y := some (.ofRat latitude)
    z := some (.ofRat altitude)
    coordinateSystem := some 1 }

def airborne : Position (Exact identities) := ⟨.ofRat 2, .ofRat 1, .ofRat 120⟩

def grounded : Position (Exact identities) := ⟨.ofRat 4, .ofRat 3, .ofRat 0⟩

def flight : List (PlatformMessage (Exact identities)) :=
  [.registration {}, .statusReport (reportFrom 2 1 120), .statusReport (reportFrom 4 3 0)]

/-- Its document shows where it is now at the altitude of before. -/
theorem last_position_mixed :
    ¬ ∀ (mesh : MeshMerge (Exact identities)) (nodeId : String)
        (history : List (PlatformMessage (Exact identities)))
        (earlier : List (Position (Exact identities))) (last : Position (Exact identities)),
        history.filterMap reportedPosition = earlier ++ [last] →
          Shows (merged mesh nodeId history) last := by
  intro claim
  have shown := claim preferWrite "n" flight [airborne] grounded rfl
  have written : ∀ key ∈ ["lat", "lon", "hae"], (merged preferWrite "n" flight).lookup key =
      (([airborne] ++ [grounded]).filterMap (positionField key)).getLast? :=
    fun key place => merged_position preferWrite "n" flight place
  have stale := ((shows_iff written).mp shown).2.2
  rw [if_pos (by decide)] at stale
  have infinite := stale (.ofRat 120) rfl
  cases infinite

theorem last_position_shown_iff_takenOff :
    Shows (merged preferWrite "n" (flight.take 2)) airborne :=
  ((last_position_shown_iff preferWrite [] airborne).1 "n" (flight.take 2) rfl).mpr
    ⟨rfl, rfl, by rw [if_neg (by decide)]; rfl⟩

end PeatSapient.MergedDocument
