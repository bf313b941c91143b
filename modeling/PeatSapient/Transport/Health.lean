import PeatSapient.Transport

/-! The handles of the peer records, and what they tell of a connection. A record's number
stands for its `alive` flag, which is given apart. The other fields of a `ConnectionHealth`
are defaults of the mesh. -/

namespace PeatSapient

open HashMap

structure PeerRecordHandle where
  peerId : String
  connectedAt : Nat
  task : Nat
  deriving DecidableEq

/-- The states that `get_peer_health` tells apart. -/
inductive ConnectionState where
  | healthy
  | dead
  deriving DecidableEq

def PeerRecordHandle.isAlive (alive : Nat → Bool) (handle : PeerRecordHandle) : Bool :=
  alive handle.task

namespace PeerMap

def getConnection (peers : PeerMap) (peerId : String) : Option PeerRecordHandle :=
  (peers.records.lookup peerId).map fun record => ⟨peerId, record.connectedAt, record.task⟩

/-- `connect()` dials nobody: it answers with the record there is. -/
def connect (peers : PeerMap) (peerId : String) : Except TransportError PeerRecordHandle :=
  match peers.getConnection peerId with
  | some handle => .ok handle
  | none => .error (.peerNotFound peerId)

def getPeerHealth (peers : PeerMap) (alive : Nat → Bool) (peerId : String) :
    Option ConnectionState :=
  (peers.getConnection peerId).map fun handle =>
    if handle.isAlive alive then .healthy else .dead

variable {peers : PeerMap} {peerId : String}

theorem connect_ok {handle : PeerRecordHandle} (connected : peers.connect peerId = .ok handle) :
    peers.records.lookup peerId = some ⟨handle.connectedAt, handle.task⟩ := by
  unfold connect getConnection at connected
  cases found : peers.records.lookup peerId with
  | none =>
      rw [found] at connected
      cases connected
  | some record =>
      rw [found] at connected
      cases connected
      rfl

theorem health_eq {alive : Nat → Bool} {state : ConnectionState} :
    peers.getPeerHealth alive peerId = some state ↔
      ∃ record, peers.records.lookup peerId = some record ∧
        (if alive record.task then .healthy else .dead) = state := by
  unfold getPeerHealth getConnection
  rw [Option.map_map, Option.map_eq_some_iff]
  rfl

end PeerMap

end PeatSapient
