import PeatSapient.Lib.Execution
import PeatSapient.Publication
import PeatSapient.Transport

/-! The transport in HLDMM mode, as a machine: the application, the accept loops, and the
receive loop of each connection. Nothing keeps `start()` from being called again: it spawns
another accept loop, and the handle of the one before is lost.

Tasks are aborted, and calls interleave with them, as in DLMM mode. -/

namespace PeatSapient

open HashMap Execution

variable {F : Type}

/-- Where a `run_hldmm_accept_loop` is. It awaits in `binding` and in `accepting`. -/
inductive AcceptStage where
  | idle
  | binding
  | accepting
  | spawning (peerId : String)
  | registering (peerId : String) (connectedAt task : Nat)
  | announcing (peerId : String) (connectedAt : Nat)
  | ended
  deriving DecidableEq

structure AcceptLoop where
  stage : AcceptStage
  aborted : Bool
  deriving DecidableEq

inductive RecvStage (F : Type) where
  | idle
  | receiving
  | publishing (publication : Publication F)
  | broken
  | returned
  | cancelled

structure RecvLoop (F : Type) where
  peerId : String
  stage : RecvStage F
  aborted : Bool
  alive : Bool

-- The loops are numbered in the order in which they were spawned.
structure Hldmm (F : Type) where
  clock : Nat
  started : Option Nat
  listenerTask : Option Nat
  acceptLoops : Nat → AcceptLoop
  acceptCount : Nat
  recvLoops : Nat → RecvLoop F
  recvCount : Nat
  peers : PeerMap
  translator : SapientTranslator F
  published : List (Publication F)
  calls : Nat → PeerCall

inductive HldmmAction (F : Type) where
  | elapse (duration : Nat)
  | start
  | stop (call : Nat)
  | disconnect (call : Nat) (peerId : String)
  | advance (call : Nat)
  | bound (accept : Nat) (ok : Bool)
  | accepted (accept : Nat) (answer : Except SapientError String)
  | proceed (accept : Nat)
  | inbound (task : Nat) (answer : Except SapientError (Option (SapientMessage F)))
  | publishDone (task : Nat)
  | finish (task : Nat)
  | cancelAccept (accept : Nat)
  | cancelRecv (task : Nat)

namespace Hldmm

def new : Hldmm F where
  clock := 0
  started := none
  listenerTask := none
  acceptLoops := fun _ => ⟨.idle, false⟩
  acceptCount := 0
  recvLoops := fun _ => ⟨"", .idle, false, false⟩
  recvCount := 0
  peers := .empty
  translator := .new
  published := []
  calls := fun _ => .idle

def setAccept (state : Hldmm F) (accept : Nat) (stage : AcceptStage) : Hldmm F :=
  { state with
    acceptLoops := Function.update state.acceptLoops accept
      { state.acceptLoops accept with stage := stage } }

def setRecv (state : Hldmm F) (task : Nat) (stage : RecvStage F) : Hldmm F :=
  { state with
    recvLoops := Function.update state.recvLoops task
      { state.recvLoops task with stage := stage } }

def setCall (state : Hldmm F) (call : Nat) (stage : PeerCall) : Hldmm F :=
  { state with calls := Function.update state.calls call stage }

def abortAccept (state : Hldmm F) (handle : Option Nat) : Hldmm F :=
  { state with
    acceptLoops := fun accept =>
      { state.acceptLoops accept with
        aborted := (state.acceptLoops accept).aborted || decide (handle = some accept) } }

def abortRecvs (state : Hldmm F) (tasks : List Nat) : Hldmm F :=
  { state with
    recvLoops := fun task =>
      { state.recvLoops task with
        aborted := (state.recvLoops task).aborted || tasks.contains task } }

def start (state : Hldmm F) : Hldmm F :=
  { state with
    acceptLoops := Function.update state.acceptLoops state.acceptCount ⟨.binding, false⟩
    acceptCount := state.acceptCount + 1
    listenerTask := some state.acceptCount
    started := some state.clock }

def stop (state : Hldmm F) (call : Nat) : Hldmm F :=
  { state.abortAccept state.listenerTask with listenerTask := none }.setCall call .draining

def disconnect (state : Hldmm F) (call : Nat) (peerId : String) : Hldmm F :=
  { state with peers := state.peers.removePeer peerId }.setCall call
    (.ofDisconnect state.peers peerId)

def stepCall (state : Hldmm F) (call : Nat) : Option (Hldmm F) :=
  match state.calls call with
  | .idle | .returned _ => none
  | .draining =>
      some ({ state.abortRecvs state.peers.tasks with
        peers := state.peers.drain
        started := none }.setCall call (.returned (.ok ())))
  | .aborting peerId record =>
      some ((state.abortRecvs [record.task]).setCall call
        (.announcing peerId (state.clock - record.connectedAt)))
  | .announcing peerId connectionDuration =>
      some ({ state with
        peers := state.peers.emitEvent
          (.disconnected peerId .localClosed connectionDuration) }.setCall call
            (.returned (.ok ())))

def spawnRecv (state : Hldmm F) (accept : Nat) (peerId : String) : Hldmm F :=
  { state with
    recvLoops := Function.update state.recvLoops state.recvCount
      ⟨peerId, .receiving, false, true⟩
    recvCount := state.recvCount + 1 }.setAccept accept
      (.registering peerId state.clock state.recvCount)

def stepAccept (state : Hldmm F) (accept : Nat) : Option (Hldmm F) :=
  match (state.acceptLoops accept).stage with
  | .idle | .binding | .accepting | .ended => none
  | .spawning peerId => some (state.spawnRecv accept peerId)
  | .registering peerId connectedAt task =>
      some ({ state with
        peers := state.peers.registerPeer peerId connectedAt task }.setAccept accept
          (.announcing peerId connectedAt))
  | .announcing peerId connectedAt =>
      some ({ state with
        peers := state.peers.emitEvent (.connected peerId connectedAt) }.setAccept accept
          .accepting)

variable [FloatOps F]

def receiveInbound (prost : Codec.Prost (SapientMessage F)) (state : Hldmm F) (task : Nat) :
    Except SapientError (Option (SapientMessage F)) → Hldmm F
  | .ok (some msg) =>
      let received := receiveMessage prost state.translator msg
      { state with translator := received.2 }.setRecv task
        (match received.1 with
          | publication :: _ => .publishing publication
          | [] => .receiving)
  | .ok none => state.setRecv task .broken
  | .error _ => state.setRecv task .broken

def step (prost : Codec.Prost (SapientMessage F)) (state : Hldmm F) :
    HldmmAction F → Option (Hldmm F)
  | .elapse duration => some { state with clock := state.clock + duration }
  | .start => some state.start
  | .stop call =>
      match state.calls call with
      | .idle => some (state.stop call)
      | _ => none
  | .disconnect call peerId =>
      match state.calls call with
      | .idle => some (state.disconnect call peerId)
      | _ => none
  | .advance call => state.stepCall call
  | .bound accept ok =>
      match (state.acceptLoops accept).stage with
      | .binding =>
          if (state.acceptLoops accept).aborted then none
          else some (state.setAccept accept (if ok then .accepting else .ended))
      | _ => none
  | .accepted accept answer =>
      match (state.acceptLoops accept).stage with
      | .accepting =>
          if (state.acceptLoops accept).aborted then none
          else match answer with
            | .ok peerId => some (state.setAccept accept (.spawning peerId))
            | .error _ => some state
      | _ => none
  | .proceed accept => state.stepAccept accept
  | .inbound task answer =>
      match (state.recvLoops task).stage with
      | .receiving =>
          if (state.recvLoops task).aborted then none
          else some (state.receiveInbound prost task answer)
      | _ => none
  | .publishDone task =>
      match (state.recvLoops task).stage with
      | .publishing publication =>
          if (state.recvLoops task).aborted then none
          else
            some ({ state with
              published := state.published ++ [publication] }.setRecv task .receiving)
      | _ => none
  | .finish task =>
      match (state.recvLoops task).stage with
      | .broken =>
          some { state with
            recvLoops := Function.update state.recvLoops task
              { state.recvLoops task with stage := .returned, alive := false } }
      | _ => none
  | .cancelAccept accept =>
      if (state.acceptLoops accept).aborted then
        match (state.acceptLoops accept).stage with
        | .binding | .accepting => some (state.setAccept accept .ended)
        | _ => none
      else none
  | .cancelRecv task =>
      if (state.recvLoops task).aborted then
        match (state.recvLoops task).stage with
        | .receiving | .publishing _ => some (state.setRecv task .cancelled)
        | _ => none
      else none

def machine (prost : Codec.Prost (SapientMessage F)) :
    Machine (Hldmm F) (HldmmAction F) where
  init := new
  step := step prost

end Hldmm

end PeatSapient
