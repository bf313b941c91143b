import PeatSapient.Lib.Channel
import PeatSapient.Lib.Execution
import PeatSapient.Publication
import PeatSapient.Transport

/-! The transport in DLMM mode, as a machine: the application, the connect loop and the
peer loop of the running connection. The receiver of the outbound channel is with the
transport until `start()`, then with the connect loop while it dials, with the peer loop
while that runs, and in the oneshot on its way back.

A task that is aborted goes on to its next await point and ends there. The stages of a
task that are not await points are those that an aborted task still leaves. The calls of
the application run on other threads, so their steps come between those of the tasks;
`start()` alone is one step. -/

namespace PeatSapient

open HashMap Mpsc Execution

variable {F : Type}

structure DlmmConfig (F : Type) where
  peerNodeId : String
  prost : Codec.Prost (SapientMessage F)

/-- Where `run_dlmm_connect_loop` is. It awaits in `dialling`, which is all of
`connect_with_retry`, and in `awaiting`, for the receiver's return. The map is changed on
the way out of `registering` and `deregistering`, the event emitted on the way out of
`announcing` and `reporting`. -/
inductive ConnectLoop where
  | idle
  | dialling
  | spawning
  | registering (connectedAt : Nat)
  | announcing (connectedAt : Nat)
  | awaiting (connectedAt : Nat)
  | checking (connectedAt : Nat)
  | deregistering (connectedAt : Nat)
  | reporting (connectedAt : Nat)
  | ended
  deriving DecidableEq

/-- Where the latest `run_dlmm_peer_loop` is. It awaits in `selecting`, `publishing` and
`sending`; in `broken` it has left its loop, in `returned` the oneshot is sent. -/
inductive PeerLoop (F : Type) where
  | idle
  | selecting
  | publishing (publication : Publication F)
  | sending (raw : Codec.Bytes)
  | broken
  | returned
  | cancelled

def outboundChannelDepth : Nat := 64

-- `accepted` and `handed` are history: the payloads that `send_outbound` took, and those
-- written to each connection, latest connection first.
structure Dlmm (F : Type) where
  clock : Nat
  started : Option Nat
  startPanicked : Bool
  listenerTask : Bool
  outboundRx : Bool
  outbound : Channel Codec.Bytes
  peers : PeerMap
  alive : Nat → Bool
  translator : SapientTranslator F
  published : List (Publication F)
  connectLoop : ConnectLoop
  connectAborted : Bool
  peerLoop : PeerLoop F
  peerAborted : Bool
  calls : Nat → PeerCall
  accepted : List Codec.Bytes
  handed : List (List Codec.Bytes)

inductive DlmmAction (F : Type) where
  | elapse (duration : Nat)
  | start
  | stop (call : Nat)
  | disconnect (call : Nat) (peerId : String)
  | advance (call : Nat)
  | sendOutbound (raw : Codec.Bytes)
  | connected
  | proceed
  | inbound (answer : Except SapientError (Option (SapientMessage F)))
  | publishDone
  | takeOutbound
  | sendRawDone (ok : Bool)
  | finish
  | cancelConnect
  | cancelPeer

namespace Dlmm

/-- The number of the latest connection. -/
def current (state : Dlmm F) : Nat := state.handed.length

def handOver (raw : Codec.Bytes) : List (List Codec.Bytes) → List (List Codec.Bytes)
  | [] => [[raw]]
  | latest :: earlier => (latest ++ [raw]) :: earlier

def delivered (state : Dlmm F) : List Codec.Bytes := state.handed.reverse.flatten

/-- `abort()` on each of the tasks: only the latest can still be running. -/
def abort (state : Dlmm F) (tasks : List Nat) : Bool :=
  state.peerAborted || tasks.contains state.current

def new : Dlmm F where
  clock := 0
  started := none
  startPanicked := false
  listenerTask := false
  outboundRx := true
  outbound := channel outboundChannelDepth
  peers := .empty
  alive := fun _ => false
  translator := .new
  published := []
  connectLoop := .idle
  connectAborted := false
  peerLoop := .idle
  peerAborted := false
  calls := fun _ => .idle
  accepted := []
  handed := []

def start (state : Dlmm F) : Dlmm F :=
  if state.outboundRx then
    { state with
      outboundRx := false
      connectLoop := .dialling
      connectAborted := false
      listenerTask := true
      started := some state.clock }
  else { state with startPanicked := true }

def setCall (state : Dlmm F) (call : Nat) (stage : PeerCall) : Dlmm F :=
  { state with calls := Function.update state.calls call stage }

def stop (state : Dlmm F) (call : Nat) : Dlmm F :=
  { state with
    connectAborted := state.connectAborted || state.listenerTask
    listenerTask := false }.setCall call .draining

def disconnect (state : Dlmm F) (call : Nat) (peerId : String) : Dlmm F :=
  { state with peers := state.peers.removePeer peerId }.setCall call
    (.ofDisconnect state.peers peerId)

def stepCall (state : Dlmm F) (call : Nat) : Option (Dlmm F) :=
  match state.calls call with
  | .idle | .returned _ => none
  | .draining =>
      -- The lock of the map is held to the end of `stop()`.
      some ({ state with
        peerAborted := state.abort state.peers.tasks
        peers := state.peers.drain
        started := none }.setCall call (.returned (.ok ())))
  | .aborting peerId record =>
      some ({ state with peerAborted := state.abort [record.task] }.setCall call
        (.announcing peerId (state.clock - record.connectedAt)))
  | .announcing peerId connectionDuration =>
      some ({ state with
        peers := state.peers.emitEvent
          (.disconnected peerId .localClosed connectionDuration) }.setCall call
            (.returned (.ok ())))

def spawnPeer (state : Dlmm F) : Dlmm F :=
  { state with
    handed := [] :: state.handed
    alive := fun task => task == state.current + 1 || state.alive task
    peerLoop := .selecting
    peerAborted := false
    connectLoop := .registering state.clock }

def stepConnect (config : DlmmConfig F) (state : Dlmm F) : Option (Dlmm F) :=
  match state.connectLoop with
  | .idle | .dialling | .ended => none
  | .spawning => some state.spawnPeer
  | .registering connectedAt =>
      some { state with
        peers := state.peers.registerPeer config.peerNodeId connectedAt state.current
        connectLoop := .announcing connectedAt }
  | .announcing connectedAt =>
      some { state with
        peers := state.peers.emitEvent (.connected config.peerNodeId connectedAt)
        connectLoop := .awaiting connectedAt }
  | .awaiting connectedAt =>
      if state.connectAborted then none
      else match state.peerLoop with
        | .returned => some { state with connectLoop := .checking connectedAt }
        | .cancelled => some { state with connectLoop := .ended }
        | _ => none
  | .checking connectedAt =>
      if (state.peers.records.lookup config.peerNodeId).isSome then
        some { state with connectLoop := .deregistering connectedAt }
      else
        some { state with
          connectLoop := .ended
          outbound := state.outbound.close }
  | .deregistering connectedAt =>
      -- The record's task has returned, so aborting it has no effect.
      some { state with
        peers := state.peers.removePeer config.peerNodeId
        connectLoop := .reporting connectedAt }
  | .reporting connectedAt =>
      some { state with
        peers := state.peers.emitEvent
          (.disconnected config.peerNodeId .remoteClosed (state.clock - connectedAt))
        connectLoop := .dialling }

def receiveInbound (config : DlmmConfig F) [FloatOps F] (state : Dlmm F) :
    Except SapientError (Option (SapientMessage F)) → Dlmm F
  | .ok (some msg) =>
      let received := receiveMessage config.prost state.translator msg
      { state with
        translator := received.2
        peerLoop := match received.1 with
          | publication :: _ => .publishing publication
          | [] => .selecting }
  | .ok none => { state with peerLoop := .broken }
  | .error _ => { state with peerLoop := .broken }

variable [FloatOps F]

def step (config : DlmmConfig F) (state : Dlmm F) : DlmmAction F → Option (Dlmm F)
  | .elapse duration => some { state with clock := state.clock + duration }
  | .start => some state.start
  | .stop call =>
      match state.calls call with
      | .idle => some (state.stop call)
      | _ => none
  | .disconnect call peerId =>
      match state.calls call with
      | .idle => some (state.disconnect call peerId)
      | _ => none
  | .advance call => state.stepCall call
  | .sendOutbound raw =>
      match state.outbound.send raw with
      | none => none
      | some outbound =>
          some { state with
            outbound := outbound
            accepted := if state.outbound.closed then state.accepted
              else state.accepted ++ [raw] }
  | .connected =>
      match state.connectLoop with
      | .dialling =>
          if state.connectAborted then none else some { state with connectLoop := .spawning }
      | _ => none
  | .proceed => state.stepConnect config
  | .inbound answer =>
      match state.peerLoop with
      | .selecting =>
          if state.peerAborted then none else some (state.receiveInbound config answer)
      | _ => none
  | .publishDone =>
      match state.peerLoop with
      | .publishing publication =>
          if state.peerAborted then none
          else
            some { state with
              published := state.published ++ [publication]
              peerLoop := .selecting }
      | _ => none
  | .takeOutbound =>
      match state.peerLoop with
      | .selecting =>
          if state.peerAborted then none
          else match state.outbound.recv with
            | none => none
            | some (raw, outbound) =>
                some { state with outbound := outbound, peerLoop := .sending raw }
      | _ => none
  | .sendRawDone ok =>
      match state.peerLoop with
      | .sending raw =>
          if state.peerAborted then none
          else if ok then
            some { state with handed := handOver raw state.handed, peerLoop := .selecting }
          else some { state with peerLoop := .broken }
      | _ => none
  | .finish =>
      match state.peerLoop with
      | .broken =>
          -- Without a connect loop to take it, the receiver is dropped.
          some { state with
            alive := fun task => task != state.current && state.alive task
            peerLoop := .returned
            outbound := if state.connectLoop = .ended then state.outbound.close
              else state.outbound }
      | _ => none
  | .cancelConnect =>
      if state.connectAborted then
        match state.connectLoop with
        | .dialling =>
            some { state with connectLoop := .ended, outbound := state.outbound.close }
        | .awaiting _ =>
            match state.peerLoop with
            | .returned =>
                some { state with connectLoop := .ended, outbound := state.outbound.close }
            | _ => some { state with connectLoop := .ended }
        | _ => none
      else none
  | .cancelPeer =>
      if state.peerAborted then
        match state.peerLoop with
        | .selecting | .publishing _ | .sending _ =>
            some { state with peerLoop := .cancelled, outbound := state.outbound.close }
        | _ => none
      else none

def machine (config : DlmmConfig F) : Machine (Dlmm F) (DlmmAction F) where
  init := new
  step := step config

end Dlmm

end PeatSapient
