import PeatSapient.Lib.HashMap
import PeatSapient.Schema

/-! registry.rs. Instants are nanosecond counts. Each operation holds the lock of
the map for its whole length, so it is one step of whoever calls it. -/

namespace PeatSapient

open HashMap

variable {F : Type}

structure ConnectedNode (F : Type) where
  nodeId : String
  capability : Option (CapabilityAdvertisement F)
  lastPosition : Option (TrackPosition F)
  lastSeen : Nat

abbrev NodeRegistry (F : Type) := Table String (ConnectedNode F)

namespace NodeRegistry

def upsert (registry : NodeRegistry F) (now : Nat) (nodeId : String)
    (capability : Option (CapabilityAdvertisement F))
    (position : Option (TrackPosition F)) : NodeRegistry F :=
  let entry := (registry.lookup nodeId).getD ⟨nodeId, none, none, now⟩
  registry.insert nodeId
    { entry with
      lastSeen := now
      capability := capability.or entry.capability
      lastPosition := position.or entry.lastPosition }

def getPosition (registry : NodeRegistry F) (nodeId : String) : Option (TrackPosition F) :=
  (registry.lookup nodeId).bind ConnectedNode.lastPosition

def remove (registry : NodeRegistry F) (nodeId : String) : NodeRegistry F :=
  registry.erase nodeId

theorem lookup_upsert (registry : NodeRegistry F) (now : Nat) (nodeId : String)
    (capability : Option (CapabilityAdvertisement F)) (position : Option (TrackPosition F))
    (other : String) :
    (registry.upsert now nodeId capability position).lookup other =
      if other = nodeId then
        some {
          nodeId := ((registry.lookup nodeId).getD ⟨nodeId, none, none, now⟩).nodeId
          capability := capability.or ((registry.lookup nodeId).bind ConnectedNode.capability)
          lastPosition := position.or (registry.getPosition nodeId)
          lastSeen := now }
      else registry.lookup other := by
  by_cases same : other = nodeId
  · subst other
    cases found : registry.lookup nodeId <;> simp [upsert, getPosition, found]
  · simp [upsert, same]

theorem lookup_remove (registry : NodeRegistry F) (nodeId other : String) :
    (registry.remove nodeId).lookup other =
      if other = nodeId then none else registry.lookup other :=
  lookup_erase_eq registry nodeId other

end NodeRegistry

end PeatSapient
