import PeatSapient.Codec
import PeatSapient.MeshFields
import PeatSapient.Transform.Detection
import PeatSapient.Transform.Registration
import PeatSapient.Transform.Status

/-! The inbound half of translator.rs. The position cache is passed along; the
protobuf library is the codec's parameter. -/

namespace PeatSapient

open HashMap

variable {F : Type}

structure MeshDocument (F : Type) where
  id : String
  fields : Fields F

structure TranslatorError where
  context : String
  cause : SapientError
  deriving DecidableEq

structure SapientTranslator (F : Type) where
  sensorPositions : Table String (TrackPosition F)

namespace SapientTranslator

def tracksCollection : String := "tracks"
def platformsCollection : String := "platforms"

def new : SapientTranslator F := ⟨∅⟩

def cachePosition (translator : SapientTranslator F) (nodeId : String)
    (position : TrackPosition F) : SapientTranslator F :=
  ⟨translator.sensorPositions.insert nodeId position⟩

def cachedPosition (translator : SapientTranslator F) (nodeId : String) :
    Option (TrackPosition F) :=
  translator.sensorPositions.lookup nodeId

@[simp] theorem cachedPosition_new (nodeId : String) :
    (new : SapientTranslator F).cachedPosition nodeId = none := rfl

theorem cachedPosition_cachePosition (translator : SapientTranslator F) (nodeId : String)
    (position : TrackPosition F) (other : String) :
    (translator.cachePosition nodeId position).cachedPosition other =
      if other = nodeId then some position else translator.cachedPosition other :=
  lookup_insert_eq translator.sensorPositions nodeId other position

end SapientTranslator

def documentFromFields (document : String × Fields F) : MeshDocument F :=
  ⟨document.1, document.2⟩

variable [FloatOps F]

def sensorPositionOf (pos : Position F) : TrackPosition F where
  latitude := pos.latitude
  longitude := pos.longitude
  altitude := FloatOps.asF32 pos.altitude
  cepM := 0.0
  verticalErrorM := 0.0

/-- The platform document of a StatusReport. Without a capability delta it is made from
an empty advertisement of the node. -/
def statusDocument (nodeId : String) (state : NodeState F)
    (capabilityDelta : Option (CapabilityAdvertisement F)) : MeshDocument F :=
  documentFromFields
    (platformToFields (capabilityDelta.getD { nodeId := nodeId }) (some state))

namespace SapientTranslator

/-- `decode_inbound` past the decoding of the bytes. -/
def decodeMessage (translator : SapientTranslator F) (msg : SapientMessage F) :
    Except TranslatorError (Option (MeshDocument F)) × SapientTranslator F :=
  let nodeId := msg.sender
  match msg.content with
  | some (.registration reg) =>
      let advertisement := fromRegistration nodeId reg
      (.ok (some (documentFromFields (platformToFields advertisement none))), translator)
  | some (.statusReport sr) =>
      let result := fromStatusReport nodeId sr
      let cached := match result.1.position with
        | some pos => translator.cachePosition nodeId (sensorPositionOf pos)
        | none => translator
      (.ok (some (statusDocument nodeId result.1 result.2)), cached)
  | some (.detectionReport dr) =>
      match fromDetectionReport nodeId (translator.cachedPosition nodeId) dr with
      | .ok track => (.ok (some (documentFromFields (trackToFields track))), translator)
      | .error cause =>
          (.error ⟨"sapient: DetectionReport mapping failed", cause⟩, translator)
  | _ => (.ok none, translator)

def decodeInbound (prost : Codec.Prost (SapientMessage F)) (translator : SapientTranslator F)
    (bytes : Codec.Bytes) :
    Except TranslatorError (Option (MeshDocument F)) × SapientTranslator F :=
  match prost.decode bytes with
  | .error cause => (.error ⟨"sapient: prost decode failed", .decode cause⟩, translator)
  | .ok msg => translator.decodeMessage msg

end SapientTranslator

end PeatSapient
