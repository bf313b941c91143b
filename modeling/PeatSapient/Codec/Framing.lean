import PeatSapient.Codec
import PeatSapient.Proto

/-! Frames on a TCP connection: how the bytes were cut into chunks cannot be
observed, and decoding inverts encoding. -/

namespace PeatSapient.Codec

open Incremental

variable {Message : Type}

-- Which of the two `Encoder` impls wrote a frame.
inductive Encoder where
  | message
  | vec
  deriving DecidableEq, Repr

def encodeWith (prost : Prost Message) (encoder : Encoder) (msg : Message) (dst : Bytes) :
    Except SapientError Bytes :=
  match encoder with
  | .message => encodeMessage prost msg dst
  | .vec => encodeVec (prost.encodeToVec msg) dst

def encodeAll (prost : Prost Message) :
    List (Encoder × Message) → Bytes → Except SapientError Bytes
  | [], dst => .ok dst
  | (encoder, msg) :: frames, dst =>
      match encodeWith prost encoder msg dst with
      | .ok written => encodeAll prost frames written
      | .error failure => .error failure

def frame (payload : Bytes) : Bytes := putU32Le payload.length ++ payload

theorem u32_round_trip {value : Nat} (small : value < 2 ^ 32) :
    u32FromLeBytes (UInt8.ofNat value) (UInt8.ofNat (value / 256))
      (UInt8.ofNat (value / 65536)) (UInt8.ofNat (value / 16777216)) = value := by
  simp only [u32FromLeBytes, UInt8.toNat_ofNat']
  omega

theorem maxFrameBytes_lt : maxFrameBytes < 2 ^ 32 := by decide

theorem encodeWith_frame (prost : Prost Message) (encoder : Encoder) (msg : Message)
    (dst : Bytes) (fits : (prost.encodeToVec msg).length ≤ maxFrameBytes) :
    encodeWith prost encoder msg dst = .ok (dst ++ frame (prost.encodeToVec msg)) := by
  have small : (prost.encodeToVec msg).length % 2 ^ 32 = (prost.encodeToVec msg).length :=
    Nat.mod_eq_of_lt (Nat.lt_of_le_of_lt fits maxFrameBytes_lt)
  cases encoder <;>
    simp only [encodeWith, encodeMessage, encodeVec, putFrame, frame, small, List.append_assoc]

theorem encodeAll_frames (prost : Prost Message) (frames : List (Encoder × Message))
    (dst : Bytes)
    (fit : ∀ entry ∈ frames, (prost.encodeToVec entry.2).length ≤ maxFrameBytes) :
    encodeAll prost frames dst =
      .ok (dst ++ (frames.map fun entry => frame (prost.encodeToVec entry.2)).flatten) := by
  induction frames generalizing dst with
  | nil => simp [encodeAll]
  | cons head rest ih =>
      obtain ⟨encoder, msg⟩ := head
      have fits := fit (encoder, msg) (by simp)
      have later := fun entry member => fit entry (List.mem_cons_of_mem _ member)
      rw [encodeAll, encodeWith_frame prost encoder msg dst fits]
      simp only [ih _ later, List.map_cons, List.flatten_cons, List.append_assoc]

theorem outcome_nil (prost : Prost Message) : outcome prost [] = .more [] := rfl

theorem outcome_whole (prost : Prost Message) (payload rest : Bytes) (msg : Message)
    (fits : payload.length ≤ maxFrameBytes) (decoded : prost.decode payload = .ok msg) :
    outcome prost (frame payload ++ rest) = .item msg rest := by
  have small := u32_round_trip (Nat.lt_of_le_of_lt fits maxFrameBytes_lt)
  have whole : ¬ (payload ++ rest).length < payload.length := by
    rw [List.length_append]
    omega
  simp only [frame, putU32Le, List.cons_append, List.nil_append]
  rw [outcome_frame, small, frameOutcome, if_neg (Nat.not_lt.mpr fits), if_neg whole]
  simp [decoded]

theorem drain_frames (prost : Prost Message)
    (exact : ∀ msg, prost.decode (prost.encodeToVec msg) = .ok msg) (msgs : List Message)
    (fit : ∀ msg ∈ msgs, (prost.encodeToVec msg).length ≤ maxFrameBytes) :
    drain (sapientCodec prost) (msgs.map fun msg => frame (prost.encodeToVec msg)).flatten =
      ⟨msgs, none, []⟩ := by
  induction msgs with
  | nil => exact drain_more (sapientCodec prost) (outcome_nil prost)
  | cons msg msgs ih =>
      have decoded : (sapientCodec prost).decode
          (frame (prost.encodeToVec msg) ++
            (msgs.map fun msg => frame (prost.encodeToVec msg)).flatten) = .item msg _ :=
        outcome_whole prost _ _ msg (fit msg (by simp)) (exact msg)
      rw [List.map_cons, List.flatten_cons, drain_item _ decoded,
        ih fun msg member => fit msg (List.mem_cons_of_mem _ member)]

/-- The reader's loop, started on an empty buffer, is the reference parse. -/
theorem feed_parse (prost : Prost Message) (chunks : List Bytes) :
    feed (sapientCodec prost) [] chunks = parse prost chunks.flatten := by
  rw [feed_flatten (sapientCodec prost) [] chunks (outcome_nil prost), List.nil_append,
    drain_parse]

/-- Any chunking of any byte string decodes like the whole string at once, which
is the reference parse; and frames written by either encoder, in any mix, come
back as exactly the messages written. -/
theorem framing (prost : Prost Message)
    (exact : ∀ msg, prost.decode (prost.encodeToVec msg) = .ok msg) :
    (∀ chunks : List Bytes,
      feed (sapientCodec prost) [] chunks = feed (sapientCodec prost) [] [chunks.flatten] ∧
      feed (sapientCodec prost) [] chunks = parse prost chunks.flatten) ∧
    ∀ frames : List (Encoder × Message),
      (∀ entry ∈ frames, (prost.encodeToVec entry.2).length ≤ maxFrameBytes) →
      ∃ written, encodeAll prost frames [] = .ok written ∧
        ∀ chunks : List Bytes, chunks.flatten = written →
          feed (sapientCodec prost) [] chunks = ⟨frames.map Prod.snd, none, []⟩ := by
  refine ⟨fun chunks => ⟨?_, feed_parse prost chunks⟩, fun frames fit => ?_⟩
  · rw [feed_parse, feed_parse, List.flatten_singleton]
  · refine ⟨_, encodeAll_frames prost frames [] fit, fun chunks split => ?_⟩
    have fits : ∀ msg ∈ frames.map Prod.snd,
        (prost.encodeToVec msg).length ≤ maxFrameBytes := by
      intro msg member
      obtain ⟨entry, written, rfl⟩ := List.mem_map.mp member
      exact fit entry written
    rw [feed_parse, split, ← drain_parse, List.nil_append,
      ← drain_frames prost exact _ fits, List.map_map]
    rfl

def named : SapientMessage Float := { nodeId := some "n" }

abbrev Sampled := { msg : SapientMessage Float // msg = {} ∨ msg = named }

/-- protobuf on the messages of the sample: a default message has no bytes, a `node_id` is
field 2. -/
def sampledProst : Prost Sampled where
  encodeToVec msg := if msg.1.nodeId.isSome then [18, 1, 110] else []
  decode bytes :=
    if bytes = [18, 1, 110] then .ok ⟨named, Or.inr rfl⟩
    else if bytes = [] then .ok ⟨{}, Or.inl rfl⟩
    else .error ⟨"failed to decode Protobuf message"⟩

theorem sampled_exact (msg : Sampled) :
    sampledProst.decode (sampledProst.encodeToVec msg) = .ok msg := by
  rcases msg with ⟨msg, rfl | rfl⟩ <;> rfl

theorem framing_sample :
    (feed (sapientCodec sampledProst) [] [[3, 0], [0, 0, 18], [1, 110, 0]] =
      feed (sapientCodec sampledProst) [] [[3, 0, 0, 0, 18, 1, 110, 0]]) ∧
    ∃ written,
      encodeAll sampledProst
        [(.message, ⟨named, Or.inr rfl⟩), (.vec, ⟨{}, Or.inl rfl⟩)] [] = .ok written ∧
      ∀ chunks : List Bytes, chunks.flatten = written →
        feed (sapientCodec sampledProst) [] chunks =
          ⟨[⟨named, Or.inr rfl⟩, ⟨{}, Or.inl rfl⟩], none, []⟩ :=
  ⟨((framing sampledProst sampled_exact).1 [[3, 0], [0, 0, 18], [1, 110, 0]]).1,
    (framing sampledProst sampled_exact).2
      [(.message, ⟨named, Or.inr rfl⟩), (.vec, ⟨{}, Or.inl rfl⟩)] (by decide)⟩

end PeatSapient.Codec
