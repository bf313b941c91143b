import PeatSapient.Route
import PeatSapient.Translator

/-! The two ways a message becomes a published document: subscriber.rs projects the
updates of the bridge, the peer loop of transport.rs asks the translator. -/

namespace PeatSapient

variable {F : Type}

structure Publication (F : Type) where
  collection : String
  doc : MeshDocument F
  origin : String

def sapientOrigin : String := "sapient"

def collectionFor (msg : SapientMessage F) : Option String :=
  match msg.content with
  | some (.detectionReport _) => some "tracks"
  | some (.registration _) | some (.statusReport _) => some "platforms"
  | _ => none

/-- What a peer loop publishes of a decoded message: errors are logged only. -/
def publishDecoded (collection : String) :
    Except TranslatorError (Option (MeshDocument F)) → List (Publication F)
  | .ok (some doc) => [⟨collection, doc, sapientOrigin⟩]
  | .ok none => []
  | .error _ => []

variable [FloatOps F]

def publishUpdate : SapientUpdate F → Option (Publication F)
  | .registered _ advertisement =>
      some ⟨SapientTranslator.platformsCollection,
        documentFromFields (platformToFields advertisement none), sapientOrigin⟩
  | .statusUpdated nodeId state capabilityDelta =>
      some ⟨SapientTranslator.platformsCollection,
        statusDocument nodeId state capabilityDelta, sapientOrigin⟩
  | .detected _ track =>
      some ⟨SapientTranslator.tracksCollection,
        documentFromFields (trackToFields track), sapientOrigin⟩
  | _ => none

def runBridgeSubscriber (updates : List (SapientUpdate F)) : List (Publication F) :=
  updates.filterMap publishUpdate

def receiveMessage (prost : Codec.Prost (SapientMessage F)) (translator : SapientTranslator F)
    (msg : SapientMessage F) : List (Publication F) × SapientTranslator F :=
  match collectionFor msg with
  | none => ([], translator)
  | some collection =>
      let decoded := translator.decodeInbound prost (prost.encodeToVec msg)
      (publishDecoded collection decoded.1, decoded.2)

def runPeerRecvLoop (prost : Codec.Prost (SapientMessage F)) :
    SapientTranslator F → List (Except SapientError (Option (SapientMessage F))) →
      List (Publication F) × SapientTranslator F
  | translator, [] => ([], translator)
  | translator, .ok (some msg) :: rest =>
      let received := receiveMessage prost translator msg
      let later := runPeerRecvLoop prost received.2 rest
      (received.1 ++ later.1, later.2)
  | translator, .ok none :: _ => ([], translator)
  | translator, .error _ :: _ => ([], translator)

end PeatSapient
