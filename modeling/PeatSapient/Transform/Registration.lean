import PeatSapient.Schema
import PeatSapient.Transform.Attributes

/-! transform/registration.rs -/

namespace PeatSapient

variable {F : Type} [FloatOps F]

def nodeTypeToCapabilityType : NodeType → CapabilityType
  | .radar | .lidar | .camera | .seismic | .acoustic | .proximitySensor | .passiveRf
  | .chemical | .biological | .radiation => .sensor
  | .mobileNode | .pointableNode => .mobility
  | .kinetic | .ldew | .rfdew | .jammer => .payload
  | .cyber => .communication
  | .fusionNode => .compute
  | .human | .other | .unspecified => .unspecified

def capabilityMetadata (msg : Registration) (definition : NodeDefinition) : Attributes :=
  (match msg.icdVersion with
    | some icd => [("sapient_icd_version", .string icd)]
    | none => []) ++
  (match msg.name with
    | some name => [("sapient_name", .string name)]
    | none => []) ++
  (if definition.nodeSubType.isEmpty then []
    else [("sapient_node_sub_type", .array definition.nodeSubType)]) ++
  (match msg.configData.head? with
    | some config =>
        [("sapient_manufacturer", .string config.manufacturer),
          ("sapient_model", .string config.model)]
    | none => [])

def capabilityOf (nodeId : String) (msg : Registration) (definition : NodeDefinition) :
    Option (Capability F) :=
  match definition.nodeType.bind NodeType.tryFrom with
  | none => none
  | some nodeType =>
      some {
        id := nodeId ++ "/" ++ nodeType.debug
        name := nodeType.debug
        capabilityType := nodeTypeToCapabilityType nodeType
        confidence := 1.0
        metadataJson := (capabilityMetadata msg definition).print }

def fromRegistration (nodeId : String) (msg : Registration) : CapabilityAdvertisement F where
  nodeId := nodeId
  capabilities := msg.nodeDefinition.filterMap (capabilityOf nodeId msg)
  resources := none
  operationalStatus := .ready

end PeatSapient
