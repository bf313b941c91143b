import PeatSapient.Lib.FieldMerge
import PeatSapient.Translator

/-! What the documents of the mesh show once the writes of many reports are merged. The
merge is the mesh's own: it is a parameter, of which only the rule that a later write
wins for each field is known. -/

namespace PeatSapient

open HashMap FieldMerge

variable {F : Type}

abbrev MeshMerge (F : Type) := LastWriterWins String (Json F)

inductive PlatformMessage (F : Type) where
  | registration (reg : Registration)
  | statusReport (sr : StatusReport F)

namespace MergedDocument

def platformDocument [FloatOps F] (nodeId : String) :
    PlatformMessage F → MeshDocument F
  | .registration reg =>
      documentFromFields (platformToFields (fromRegistration nodeId reg) none)
  | .statusReport sr =>
      statusDocument nodeId (fromStatusReport nodeId sr).1 (fromStatusReport nodeId sr).2

variable [FloatOps F]

theorem platformDocument_id (nodeId : String) (message : PlatformMessage F) :
    (platformDocument nodeId message).id = nodeId := by
  cases message with
  | registration reg => rfl
  | statusReport sr =>
      simp only [platformDocument, statusDocument, documentFromFields, platformToFields,
        fromStatusReport, capabilityDelta]
      split <;> rfl

def merged (mesh : MeshMerge F) (nodeId : String) (history : List (PlatformMessage F)) :
    Fields F :=
  mergeAll mesh (history.map fun message => (platformDocument nodeId message).fields)

theorem merged_snoc (mesh : MeshMerge F) (nodeId : String)
    (history : List (PlatformMessage F)) (message : PlatformMessage F) :
    merged mesh nodeId (history ++ [message]) =
      mesh.merge (merged mesh nodeId history) (platformDocument nodeId message).fields := by
  unfold merged
  rw [List.map_append, List.map_singleton, mergeAll_snoc]

def haeField (altitude : F) : Option (Json F) :=
  if FloatOps.isZero altitude then none else some (jsonNumber altitude)

def positionField (key : String) (pos : Position F) : Option (Json F) :=
  if key = "hae" then haeField pos.altitude
  else if key = "lon" then some (jsonNumber pos.longitude)
  else if key = "lat" then some (jsonNumber pos.latitude)
  else none

def stateField (key : String) (state : NodeState F) : Option (Json F) :=
  (state.position.bind (positionField key)).or
    (if key = "phase" then some (.string (phaseStr state.phase))
    else if key = "health" then some (.string (healthStatusStr state.health))
    else none)

def advertisedField (key : String) (advertisement : CapabilityAdvertisement F) :
    Option (Json F) :=
  if key = "operational_status" then
    if advertisement.operationalStatus = .unspecified then none
    else some (.string (operationalStatusStr advertisement.operationalStatus))
  else if key = "capabilities" then
    if (advertisement.capabilities.map Capability.name).isEmpty then none
    else some (.array (advertisement.capabilities.map Capability.name))
  else none

theorem lookup_insertPosition (latitude longitude altitude : F) (fields : Fields F)
    (key : String) :
    (insertPosition latitude longitude altitude fields).lookup key =
      (positionField key ⟨latitude, longitude, altitude⟩).or (fields.lookup key) := by
  unfold insertPosition positionField haeField
  by_cases hae : key = "hae"
  · subst hae
    by_cases zero : FloatOps.isZero altitude = true <;> simp [zero]
  · by_cases lon : key = "lon"
    · subst lon
      split <;> simp
    · by_cases lat : key = "lat"
      · subst lat
        split <;> simp
      · split <;> simp [hae, lon, lat]

def insertSome (name : String) (value : Option (Json F)) (fields : Fields F) : Fields F :=
  match value with
  | some value => fields.insert name value
  | none => fields

omit [FloatOps F] in
theorem lookup_insertSome (name : String) (value : Option (Json F)) (fields : Fields F)
    (key : String) :
    (insertSome name value fields).lookup key =
      (if key = name then value else none).or (fields.lookup key) := by
  cases value with
  | none => simp [insertSome]
  | some value =>
      rw [insertSome, lookup_insert_eq]
      split <;> simp

def classificationField (track : Track F) : Option (Json F) :=
  if track.classification.isEmpty then none else some (.string track.classification)

def sourceField (track : Track F) : Option (Json F) :=
  track.source.bind fun source =>
    if source.nodeId.isEmpty then none else some (.string source.nodeId)

def placeField (key : String) (track : Track F) : Option (Json F) :=
  track.position.bind fun pos => positionField key ⟨pos.latitude, pos.longitude, pos.altitude⟩

def trackField (key : String) (track : Track F) : Option (Json F) :=
  if key = "sapient_source_node_id" then sourceField track
  else if key = "sapient_confidence" then some (jsonNumber track.confidence)
  else if key = "sapient_classification" then classificationField track
  else if key = "timestamp_ms" then
    track.lastSeen.map fun lastSeen => .integer (timestampMs lastSeen)
  else placeField key track

def placeFields (track : Track F) : Fields F :=
  match track.position with
  | some pos => insertPosition pos.latitude pos.longitude pos.altitude ∅
  | none => ∅

theorem trackToFields_eq (track : Track F) :
    (trackToFields track).2 =
      insertSome "sapient_source_node_id" (sourceField track)
        (insertSome "sapient_confidence" (some (jsonNumber track.confidence))
          (insertSome "sapient_classification" (classificationField track)
            (insertSome "timestamp_ms"
              (track.lastSeen.map fun lastSeen => .integer (timestampMs lastSeen))
              (placeFields track)))) := by
  simp only [trackToFields, classificationField, sourceField, placeFields]
  cases track.position <;> cases track.lastSeen <;> cases track.source <;>
    dsimp only [Option.bind] <;> split <;> (try split) <;> rfl

theorem lookup_placeFields (track : Track F) (key : String) :
    (placeFields track).lookup key = placeField key track := by
  unfold placeFields placeField
  cases track.position with
  | none => rfl
  | some pos => simp [lookup_insertPosition]

theorem placeField_other {key : String} (other : key ∉ ["hae", "lon", "lat"])
    (track : Track F) : placeField key track = none := by
  simp only [List.mem_cons, List.not_mem_nil, or_false, not_or] at other
  unfold placeField
  cases track.position with
  | none => rfl
  | some pos => exact (if_neg other.1).trans ((if_neg other.2.1).trans (if_neg other.2.2))

theorem lookup_trackToFields (track : Track F) (key : String) :
    (trackToFields track).2.lookup key = trackField key track := by
  rw [trackToFields_eq]
  simp only [lookup_insertSome, lookup_placeFields, trackField]
  by_cases source : key = "sapient_source_node_id"
  · subst key
    rw [placeField_other (by decide)]
    simp
  by_cases confidence : key = "sapient_confidence"
  · subst key
    simp
  by_cases classification : key = "sapient_classification"
  · subst key
    rw [placeField_other (by decide)]
    simp
  by_cases timestamp : key = "timestamp_ms"
  · subst key
    rw [placeField_other (by decide)]
    simp
  · simp [source, confidence, classification, timestamp]

theorem lookup_advertised (advertisement : CapabilityAdvertisement F) (key : String) :
    (platformToFields advertisement none).2.lookup key = advertisedField key advertisement := by
  unfold platformToFields advertisedField
  dsimp only
  by_cases status : key = "operational_status"
  · subst status
    split <;> split <;> simp [-AList.insert_empty]
  · by_cases names : key = "capabilities"
    · subst names
      split <;> split <;> simp [-AList.insert_empty]
    · split <;> split <;> simp [-AList.insert_empty, status, names]

theorem lookup_platformToFields (advertisement : CapabilityAdvertisement F)
    (state : Option (NodeState F)) (key : String) :
    (platformToFields advertisement state).2.lookup key =
      (state.bind (stateField key)).or (advertisedField key advertisement) := by
  rw [← lookup_advertised]
  cases state with
  | none => rfl
  | some state =>
      have told : ∀ fields : Fields F, ((fields.insert "health"
          (.string (healthStatusStr state.health))).insert "phase"
            (.string (phaseStr state.phase))).lookup key =
          (if key = "phase" then some (.string (phaseStr state.phase))
            else if key = "health" then some (.string (healthStatusStr state.health))
            else none : Option (Json F)).or (fields.lookup key) := by
        intro fields
        rw [lookup_insert_eq, lookup_insert_eq]
        split
        · rfl
        · split <;> rfl
      simp only [platformToFields, Option.bind_some, stateField]
      cases state.position with
      | none => exact told _
      | some pos =>
          simp only [Option.bind_some, lookup_insertPosition, told, Option.or_assoc]

end MergedDocument

end PeatSapient
