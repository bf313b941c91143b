import PeatSapient.Translator

/-! The outbound half of translator.rs: a mesh document of the tracks collection as the
bytes of a DetectionReport. -/

namespace PeatSapient

open HashMap

variable {F : Type}

inductive JsonValue (F : Type) where
  | null
  | bool (value : Bool)
  | number (value : F)
  | integer (value : Int)
  | string (text : String)
  | array (values : List (JsonValue F))
  | object (entries : List (String × JsonValue F))

structure SharedDocument (F : Type) where
  id : Option String
  fields : Table String (JsonValue F)

structure TranslationContext where
  collection : Option String
  localWireId : Option String

def JsonValue.asStr : JsonValue F → Option String
  | .string text => some text
  | _ => none

def locationDatumWgs84E : Int := 1

variable [FloatOps F]

def JsonValue.asF64 : JsonValue F → Option F
  | .number value => some value
  | .integer value =>
      some (if 0 ≤ value then FloatOps.ofNat value.toNat else -FloatOps.ofNat (-value).toNat)
  | _ => none

namespace SharedDocument

def number (doc : SharedDocument F) (name : String) : Option F :=
  (doc.fields.lookup name).bind JsonValue.asF64

def classification (doc : SharedDocument F) : List (DetectionReportClassification F) :=
  match (doc.fields.lookup "sapient_classification").bind JsonValue.asStr with
  | some cls =>
      [{ type := some cls
         confidence := (doc.number "sapient_confidence").map FloatOps.asF32 }]
  | none => []

/-- The location that `encode_outbound` writes, in degrees and metres. -/
def location (doc : SharedDocument F) (lat lon : F) : Location F where
  x := some lon
  y := some lat
  z := some ((doc.number "hae").getD 0.0)
  coordinateSystem := some 1
  datum := some locationDatumWgs84E

end SharedDocument

def outboundMessage (doc : SharedDocument F) (ctx : TranslationContext) :
    Option (SapientMessage F) :=
  if ctx.collection = some SapientTranslator.tracksCollection then
    match doc.id, doc.number "lat", doc.number "lon" with
    | some objectId, some lat, some lon =>
        some {
          nodeId := ctx.localWireId
          content := some (.detectionReport {
            objectId := some objectId
            locationOneof := some (.location (doc.location lat lon))
            classification := doc.classification }) }
    | _, _, _ => none
  else none

def encodeOutbound (prost : Codec.Prost (SapientMessage F)) (doc : SharedDocument F)
    (ctx : TranslationContext) : Option Codec.Bytes :=
  (outboundMessage doc ctx).map prost.encodeToVec

theorem outboundMessage_some {doc : SharedDocument F} {ctx : TranslationContext}
    {msg : SapientMessage F} (accepted : outboundMessage doc ctx = some msg) :
    ctx.collection = some SapientTranslator.tracksCollection ∧
      ∃ objectId lat lon, doc.id = some objectId ∧ doc.number "lat" = some lat ∧
        doc.number "lon" = some lon ∧
          msg = {
            nodeId := ctx.localWireId
            content := some (.detectionReport {
              objectId := some objectId
              locationOneof := some (.location (doc.location lat lon))
              classification := doc.classification }) } := by
  unfold outboundMessage at accepted
  split at accepted
  · next tracks =>
      split at accepted
      · next objectId lat lon named north east =>
          cases accepted
          exact ⟨tracks, objectId, lat, lon, named, north, east, rfl⟩
      · cases accepted
  · cases accepted

end PeatSapient
