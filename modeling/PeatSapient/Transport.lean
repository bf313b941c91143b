import Mathlib.Data.List.Induction
import PeatSapient.Lib.HashMap

/-! The peer records of transport.rs and the events they give rise to. The event queues
of the subscribers are left out: `events` is every event emitted. A connection number
stands for the connection's `alive` flag and the handle of its task. -/

namespace PeatSapient

open HashMap

structure PeerRecord where
  connectedAt : Nat
  task : Nat
  deriving DecidableEq

inductive DisconnectReason where
  | remoteClosed
  | localClosed
  deriving DecidableEq

inductive PeerEvent where
  | connected (peerId : String) (connectedAt : Nat)
  | disconnected (peerId : String) (reason : DisconnectReason) (connectionDuration : Nat)
  deriving DecidableEq

inductive TransportError where
  | peerNotFound (peerId : String)
  deriving DecidableEq

structure PeerMap where
  records : Table String PeerRecord
  events : List PeerEvent

namespace PeerMap

def empty : PeerMap := ⟨∅, []⟩

def registerPeer (peers : PeerMap) (peerId : String) (connectedAt task : Nat) : PeerMap :=
  { peers with records := peers.records.insert peerId ⟨connectedAt, task⟩ }

def removePeer (peers : PeerMap) (peerId : String) : PeerMap :=
  { peers with records := peers.records.erase peerId }

def emitEvent (peers : PeerMap) (event : PeerEvent) : PeerMap :=
  { peers with events := peers.events ++ [event] }

def drain (peers : PeerMap) : PeerMap := ⟨∅, peers.events⟩

def tasks (peers : PeerMap) : List Nat := peers.records.entries.map fun entry => entry.2.task

def connectedPeers (peers : PeerMap) : List String := peers.records.keys

def peerCount (peers : PeerMap) : Nat := peers.records.entries.length

theorem mem_tasks {peers : PeerMap} {peerId : String} {record : PeerRecord}
    (found : peers.records.lookup peerId = some record) : record.task ∈ peers.tasks :=
  List.mem_map.mpr ⟨⟨peerId, record⟩, (entry_iff_lookup ..).mpr found, rfl⟩

def Vacant (peers : PeerMap) : Prop := ∀ peerId, peers.records.lookup peerId = none

theorem Vacant.absent {peers : PeerMap} (vacant : peers.Vacant) {peerId : String}
    (present : (peers.records.lookup peerId).isSome = true) : False := by
  rw [vacant peerId] at present
  cases present

theorem Vacant.remove {peers : PeerMap} (vacant : peers.Vacant) (peerId : String) :
    (peers.removePeer peerId).Vacant := by
  intro other
  refine (lookup_erase_eq peers.records peerId other).trans ?_
  split
  · rfl
  · exact vacant other

theorem vacant_drain (peers : PeerMap) : peers.drain.Vacant := fun _ => rfl

theorem vacant_iff (peers : PeerMap) : peers.Vacant ↔ peers.records = ∅ := by
  constructor
  · intro vacant
    apply AList.ext
    cases entries : peers.records.entries with
    | nil => rfl
    | cons entry rest =>
        have found := (entry_iff_lookup peers.records entry.1 entry.2).mp (by simp [entries])
        rw [vacant entry.1] at found
        cases found
  · intro empty peerId
    rw [empty]
    rfl

def announces (peerId : String) : PeerEvent → Option Bool
  | .connected other _ => if other = peerId then some true else none
  | .disconnected other _ _ => if other = peerId then some false else none

def disconnects (peerId : String) (events : List PeerEvent) : List PeerEvent :=
  events.filter fun event => announces peerId event == some false

theorem disconnects_connected (peerId : String) (events : List PeerEvent) (connectedAt : Nat) :
    disconnects peerId (events ++ [.connected peerId connectedAt]) =
      disconnects peerId events := by
  simp [disconnects, announces]

theorem disconnects_disconnected (peerId : String) (events : List PeerEvent)
    (reason : DisconnectReason) (connectionDuration : Nat) :
    disconnects peerId (events ++ [.disconnected peerId reason connectionDuration]) =
      disconnects peerId events ++ [.disconnected peerId reason connectionDuration] := by
  simp [disconnects, announces]

def follows (connected : Option Bool) (opens : Bool) : Option Bool :=
  if connected = some (!opens) then some opens else none

/-- Whether the last connection announced is still open, where each Connected event of the
peer is followed by one Disconnected event before the next. -/
def paired (peerId : String) (events : List PeerEvent) : Option Bool :=
  (events.filterMap (announces peerId)).foldl follows (some false)

theorem paired_snoc (peerId : String) (events : List PeerEvent) (event : PeerEvent) :
    paired peerId (events ++ [event]) =
      (announces peerId event).elim (paired peerId events) (follows (paired peerId events)) := by
  cases announced : announces peerId event <;> simp [paired, announced]

theorem paired_elsewhere {peerId : String} {event : PeerEvent}
    (elsewhere : announces peerId event = none) (events : List PeerEvent) :
    paired peerId (events ++ [event]) = paired peerId events := by
  simp [paired_snoc, elsewhere]

theorem paired_connected {peerId : String} {events : List PeerEvent} (connectedAt : Nat)
    (closed : paired peerId events = some false) :
    paired peerId (events ++ [.connected peerId connectedAt]) = some true := by
  simp [paired_snoc, announces, follows, closed]

theorem paired_disconnected {peerId : String} {events : List PeerEvent}
    (reason : DisconnectReason) (connectionDuration : Nat)
    (connected : paired peerId events = some true) :
    paired peerId (events ++ [.disconnected peerId reason connectionDuration]) = some false := by
  simp [paired_snoc, announces, follows, connected]

/-- Whether a peer is connected, for one who knew whether it was and goes by the last event
about it since. -/
def lastHeard (peerId : String) (known : Bool) (events : List PeerEvent) : Bool :=
  (events.filterMap (announces peerId)).getLast?.getD known

theorem lastHeard_snoc (peerId : String) (known : Bool) (events : List PeerEvent)
    (event : PeerEvent) :
    lastHeard peerId known (events ++ [event]) =
      (announces peerId event).getD (lastHeard peerId known events) := by
  cases announced : announces peerId event <;> simp [lastHeard, announced]

theorem lastHeard_append (peerId : String) (known : Bool) (events more : List PeerEvent) :
    lastHeard peerId known (events ++ more) =
      lastHeard peerId (lastHeard peerId known events) more := by
  induction more using List.reverseRecOn with
  | nil => simp [lastHeard]
  | append_singleton more event ih =>
      rw [← List.append_assoc, lastHeard_snoc, lastHeard_snoc, ih]

theorem lastHeard_of_paired {peerId : String} {events : List PeerEvent} {connected : Bool}
    (alternate : paired peerId events = some connected) :
    lastHeard peerId false events = connected := by
  induction events using List.reverseRecOn generalizing connected with
  | nil => simpa [lastHeard, paired] using alternate
  | append_singleton events event ih =>
      rw [paired_snoc] at alternate
      rw [lastHeard_snoc]
      cases announced : announces peerId event with
      | none =>
          rw [announced] at alternate
          exact ih alternate
      | some opens =>
          rw [announced, Option.elim_some, follows] at alternate
          split at alternate
          · exact Option.some.inj alternate
          · cases alternate

/-- The map has exactly the peers whose receive loop runs, and the events agree with that. -/
structure Bookkept (peers : PeerMap) (runs : String → Prop) : Prop where
  listed : ∀ peerId, peerId ∈ peers.connectedPeers ↔ runs peerId
  counted : ∃ running : List String, running.Nodup ∧ (∀ peerId, peerId ∈ running ↔ runs peerId) ∧
    peers.peerCount = running.length
  connected : ∀ peerId, runs peerId → paired peerId peers.events = some true
  disconnected : ∀ peerId, ¬ runs peerId → paired peerId peers.events = some false

theorem mem_connectedPeers {peers : PeerMap} {peerId : String} :
    peerId ∈ peers.connectedPeers ↔ (peers.records.lookup peerId).isSome = true :=
  AList.mem_keys.symm.trans AList.lookup_isSome.symm

theorem bookkept_of_lookup {peers : PeerMap} {runs : String → Prop}
    (listed : ∀ peerId, (peers.records.lookup peerId).isSome = true ↔ runs peerId)
    (announced : ∀ peerId, paired peerId peers.events =
      some (peers.records.lookup peerId).isSome) : Bookkept peers runs where
  listed peerId := mem_connectedPeers.trans (listed peerId)
  counted := ⟨peers.connectedPeers, AList.keys_nodup _,
    fun peerId => mem_connectedPeers.trans (listed peerId), (List.length_map _).symm⟩
  connected peerId running := by rw [announced peerId, (listed peerId).mpr running]
  disconnected peerId ended := by
    have absent : ¬ (peers.records.lookup peerId).isSome = true :=
      fun present => ended ((listed peerId).mp present)
    rw [announced peerId, eq_false_of_ne_true absent]

end PeerMap

/-- Where a call of `stop()` or of `disconnect()` is. Neither awaits, but other tasks run
between these steps: `stop()` has aborted the listener and is to drain the map, and
`disconnect()` has the record it took out in its hands. -/
inductive PeerCall where
  | idle
  | draining
  | aborting (peerId : String) (record : PeerRecord)
  | announcing (peerId : String) (connectionDuration : Nat)
  | returned (result : Except TransportError Unit)

namespace PeerCall

def busy : PeerCall → Bool
  | .idle | .returned _ => false
  | _ => true

def holdsTask : PeerCall → Bool
  | .aborting _ _ => true
  | _ => false

def ofDisconnect (peers : PeerMap) (peerId : String) : PeerCall :=
  match peers.records.lookup peerId with
  | none => .returned (.error (.peerNotFound peerId))
  | some record => .aborting peerId record

theorem aborting_update {calls : Nat → PeerCall} {call other : Nat} {before stage : PeerCall}
    {peerId : String} {record : PeerRecord} (moving : calls call = before)
    (free : before.holdsTask = false) (here : calls other = .aborting peerId record) :
    Function.update calls call stage other = .aborting peerId record := by
  have distinct : other ≠ call := by
    rintro rfl
    rw [moving] at here
    rw [here] at free
    cases free
  rw [Function.update_of_ne distinct]
  exact here

end PeerCall

/-- What a loop does only while it has not been aborted. -/
theorem of_live {Next : Type} {aborted : Bool} {next : Option Next} {after : Next}
    (taken : (if aborted then none else next) = some after) :
    aborted = false ∧ next = some after := by
  cases aborted with
  | true => cases taken
  | false => exact ⟨rfl, taken⟩

end PeatSapient
