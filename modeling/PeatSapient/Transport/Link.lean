import PeatSapient.Codec.Limits
import PeatSapient.Transport.Dlmm
import PeatSapient.Transport.Hldmm

/-! A transport in DLMM mode and one in HLDMM mode, and the connections between them. The
peer loop of a connection writes the frame of one payload after the other, a few bytes at a
time, and a write may stop anywhere. TCP hands the bytes written over in their order, and the
receive loop decodes what it has read of them. Other peers connect to the HLDMM as well. -/

namespace PeatSapient

open HashMap Mpsc Execution Codec

variable {F : Type}

-- `offered` and `whole` are history: the payloads that the peer loop took from the channel
-- to write them here, and those of them whose `send_raw` succeeded.
structure Wire where
  offered : List Bytes
  whole : List Bytes
  sent : Bytes
  claimed : Bool

/-- What a receive loop has of its connection: which one of the DLMM's it is, if any, how many
bytes of it were read, and those not yet decoded. `got` is history: the messages decoded. -/
structure Reader (F : Type) where
  source : Option Nat
  taken : Nat
  buffer : Bytes
  got : List (SapientMessage F)

/-- The connections are numbered as the DLMM's are. `incoming` is the one that an accept loop
has accepted and not yet given to a receive loop. -/
structure Link (F : Type) where
  sender : Dlmm F
  receiver : Hldmm F
  wires : Nat → Wire
  incoming : Nat → Option Nat
  readers : Nat → Reader F

inductive LinkAction (F : Type) where
  | sender (action : DlmmAction F)
  | receiver (action : HldmmAction F)
  | write (count : Nat)
  | accept (accept conn : Nat) (peerId : String)
  | read (task count : Nat)
  | receive (task : Nat)

def streamOf (payloads : List Bytes) : Bytes := payloads.flatMap wrappedFrame

namespace Link

def new : Link F where
  sender := .new
  receiver := .new
  wires := fun _ => ⟨[], [], [], false⟩
  incoming := fun _ => none
  readers := fun _ => ⟨none, 0, [], []⟩

def setWire (state : Link F) (conn : Nat) (wire : Wire) : Link F :=
  { state with wires := Function.update state.wires conn wire }

def setReader (state : Link F) (task : Nat) (reader : Reader F) : Link F :=
  { state with readers := Function.update state.readers task reader }

def latest (state : Link F) : Wire := state.wires state.sender.current

variable [FloatOps F]

/-- A step of the DLMM. `send_raw` succeeds only once it has written the whole frame. -/
def stepSender (config : DlmmConfig F) (state : Link F) (action : DlmmAction F) :
    Option (Link F) :=
  match Dlmm.step config state.sender action with
  | none => none
  | some sender =>
      match action, sender.peerLoop with
      | .takeOutbound, .sending raw =>
          some ({ state with sender := sender }.setWire state.sender.current
            { state.latest with offered := state.latest.offered ++ [raw] })
      | .sendRawDone true, _ =>
          if state.latest.sent = streamOf state.latest.offered then
            some ({ state with sender := sender }.setWire state.sender.current
              { state.latest with whole := state.latest.offered })
          else none
      | _, _ => some { state with sender := sender }

/-- A step of the HLDMM, but for what comes in on the connections of the DLMM: there a
connection may end or fail at any time, and messages are decoded. -/
def stepReceiver (prost : Prost (SapientMessage F)) (state : Link F)
    (action : HldmmAction F) : Option (Link F) :=
  match Hldmm.step prost state.receiver action with
  | none => none
  | some receiver =>
      match action with
      | .proceed accept =>
          match (state.receiver.acceptLoops accept).stage with
          | .spawning _ =>
              some ({ state with
                receiver := receiver
                incoming := Function.update state.incoming accept none }.setReader
                  state.receiver.recvCount ⟨state.incoming accept, 0, [], []⟩)
          | _ => some { state with receiver := receiver }
      | .inbound task (.ok (some _)) =>
          if (state.readers task).source.isSome then none
          else some { state with receiver := receiver }
      | _ => some { state with receiver := receiver }

def decodeNext (prost : Prost (SapientMessage F)) (state : Link F) (task : Nat) :
    Option (Link F) :=
  let reader := state.readers task
  match outcome prost reader.buffer with
  | .more _ => none
  | .item msg rest =>
      (Hldmm.step prost state.receiver (.inbound task (.ok (some msg)))).map fun receiver =>
        { state with receiver := receiver }.setReader task
          { reader with buffer := rest, got := reader.got ++ [msg] }
  | .fail failure rest =>
      (Hldmm.step prost state.receiver (.inbound task (.error failure))).map fun receiver =>
        { state with receiver := receiver }.setReader task { reader with buffer := rest }

def step (config : DlmmConfig F) (prost : Prost (SapientMessage F)) (state : Link F) :
    LinkAction F → Option (Link F)
  | .sender action => state.stepSender config action
  | .receiver action => state.stepReceiver prost action
  | .write count =>
      match state.sender.peerLoop with
      | .sending _ =>
          let ahead := (streamOf state.latest.offered).drop state.latest.sent.length
          some (state.setWire state.sender.current
            { state.latest with sent := state.latest.sent ++ ahead.take count })
      | _ => none
  | .accept accept conn peerId =>
      if (state.wires conn).claimed then none
      else
        (Hldmm.step prost state.receiver (.accepted accept (.ok peerId))).map fun receiver =>
          { state with
            receiver := receiver
            incoming := Function.update state.incoming accept (some conn) }.setWire conn
              { state.wires conn with claimed := true }
  | .read task count =>
      match (state.readers task).source with
      | none => none
      | some conn =>
          let reader := state.readers task
          let bytes := ((state.wires conn).sent.drop reader.taken).take count
          some (state.setReader task
            { reader with
              taken := reader.taken + bytes.length
              buffer := reader.buffer ++ bytes })
  | .receive task =>
      match (state.readers task).source with
      | none => none
      | some _ => state.decodeNext prost task

def machine (config : DlmmConfig F) (prost : Prost (SapientMessage F)) :
    Machine (Link F) (LinkAction F) where
  init := new
  step := step config prost

end Link

end PeatSapient
