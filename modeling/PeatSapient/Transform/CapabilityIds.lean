import Mathlib.Data.List.Forall2
import Mathlib.Data.List.Nodup
import Mathlib.Data.String.Basic
import PeatSapient.Numeric.Exact
import PeatSapient.Transform.Registration

/-! The capabilities of a registration, one for each node definition with a known type.
Their ids are made of the node id and the name of the type alone. -/

namespace PeatSapient

variable {F : Type} [FloatOps F]

def NodeDefinition.knownType (definition : NodeDefinition) : Option NodeType :=
  definition.nodeType.bind NodeType.tryFrom

def Registration.knownTypes (msg : Registration) : List NodeType :=
  msg.nodeDefinition.filterMap NodeDefinition.knownType

def capabilityIds (advertisement : CapabilityAdvertisement F) : List String :=
  advertisement.capabilities.map Capability.id

/-- The capability says of the definition what `from_registration` takes from it. -/
structure Describes (nodeId : String) (msg : Registration) (definition : NodeDefinition)
    (capability : Capability F) : Prop where
  known : ∃ nodeType, definition.knownType = some nodeType ∧
    capability.id = nodeId ++ "/" ++ nodeType.debug ∧ capability.name = nodeType.debug ∧
      capability.capabilityType = nodeTypeToCapabilityType nodeType
  confidence : capability.confidence = 1.0
  metadata : capability.metadataJson = (capabilityMetadata msg definition).print

def NodeType.all : List NodeType :=
  [.unspecified, .other, .radar, .lidar, .camera, .seismic, .acoustic, .proximitySensor,
    .passiveRf, .human, .chemical, .biological, .radiation, .kinetic, .jammer, .cyber, .ldew,
    .rfdew, .mobileNode, .pointableNode, .fusionNode]

theorem NodeType.mem_all (nodeType : NodeType) : nodeType ∈ NodeType.all := by
  cases nodeType <;> decide

theorem NodeType.debug_injective : Function.Injective NodeType.debug := by
  intro left right same
  have distinct : (NodeType.all.map NodeType.debug).Nodup := by decide
  exact List.inj_on_of_nodup_map distinct left.mem_all right.mem_all same

theorem capabilityId_injective (nodeId : String) :
    Function.Injective fun nodeType : NodeType => nodeId ++ "/" ++ nodeType.debug := by
  intro left right same
  have names : left.debug = right.debug := by
    have lists := congrArg String.toList same
    simp only [String.toList_append, List.append_assoc, List.append_cancel_left_eq] at lists
    exact String.toList_inj.mp lists
  exact NodeType.debug_injective names

theorem capabilityOf_none {nodeId : String} {msg : Registration} {definition : NodeDefinition}
    (unknown : definition.knownType = none) :
    (capabilityOf nodeId msg definition : Option (Capability F)) = none := by
  rw [NodeDefinition.knownType] at unknown
  simp [capabilityOf, unknown]

theorem capabilityOf_some (nodeId : String) (msg : Registration) {definition : NodeDefinition}
    {nodeType : NodeType} (known : definition.knownType = some nodeType) :
    ∃ capability : Capability F, capabilityOf nodeId msg definition = some capability ∧
      capability.id = nodeId ++ "/" ++ nodeType.debug ∧
        Describes nodeId msg definition capability := by
  have found := known
  rw [NodeDefinition.knownType] at found
  simp only [capabilityOf, found]
  exact ⟨_, rfl, rfl, ⟨nodeType, known, rfl, rfl, rfl⟩, rfl, rfl⟩

/-- The capabilities and the known definitions correspond one to one, in the same order. -/
theorem capabilities_describe (nodeId : String) (msg : Registration)
    (definitions : List NodeDefinition) :
    List.Forall₂ (Describes (F := F) nodeId msg)
      (definitions.filter fun definition => definition.knownType.isSome)
      (definitions.filterMap (capabilityOf nodeId msg)) := by
  induction definitions with
  | nil => exact .nil
  | cons definition rest ih =>
      cases known : definition.knownType with
      | none => simpa [known, capabilityOf_none known] using ih
      | some nodeType =>
          obtain ⟨capability, made, _, describes⟩ :=
            capabilityOf_some (F := F) nodeId msg known
          simpa [known, made] using ⟨describes, ih⟩

theorem capabilityIds_eq (nodeId : String) (msg : Registration) :
    capabilityIds (fromRegistration nodeId msg : CapabilityAdvertisement F) =
      msg.knownTypes.map fun nodeType => nodeId ++ "/" ++ nodeType.debug := by
  simp only [capabilityIds, fromRegistration, Registration.knownTypes, List.map_filterMap]
  congr 1
  funext definition
  cases known : definition.knownType with
  | none => simp [capabilityOf_none known]
  | some nodeType =>
      obtain ⟨capability, made, named, _⟩ :=
        capabilityOf_some (F := F) nodeId msg known
      simp [made, named]

/-- An advertisement is complete and in order, and its ids are distinct exactly where the
known types of the definitions are. -/
theorem capabilities_complete (nodeId : String) (msg : Registration) :
    List.Forall₂ (Describes (F := F) nodeId msg)
        (msg.nodeDefinition.filter fun definition => definition.knownType.isSome)
        (fromRegistration nodeId msg).capabilities ∧
      ((capabilityIds (fromRegistration nodeId msg : CapabilityAdvertisement F)).Nodup ↔
        msg.knownTypes.Nodup) := by
  constructor
  · exact capabilities_describe nodeId msg msg.nodeDefinition
  · rw [capabilityIds_eq]
    exact List.nodup_map_iff (capabilityId_injective nodeId)

/-- Two radars of different sub-types share an id. -/
theorem radar_ids_collide :
    ∃ msg : Registration,
      msg.nodeDefinition = [⟨some 2, ["long range"]⟩, ⟨some 2, ["short range"]⟩] ∧
      capabilityIds (fromRegistration "n" msg : CapabilityAdvertisement (Exact identities)) =
        ["n/Radar", "n/Radar"] := by
  exact ⟨{ nodeDefinition := [⟨some 2, ["long range"]⟩, ⟨some 2, ["short range"]⟩] }, rfl, rfl⟩

end PeatSapient
