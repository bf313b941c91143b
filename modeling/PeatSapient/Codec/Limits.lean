import PeatSapient.Codec.Framing
import PeatSapient.Lib.Framed

/-! The frames that the encoders write and the decoder reads. The decoder refuses a
length above `maxFrameBytes`; the encoders write any payload, under the low 32 bits of
its length. -/

namespace PeatSapient.Codec

open Incremental

variable {Message : Type}

inductive Sent (Message : Type) where
  | message (msg : Message)
  | vec (payload : Bytes)

def Sent.payload (prost : Prost Message) : Sent Message → Bytes
  | .message msg => prost.encodeToVec msg
  | .vec payload => payload

def encodeSent (prost : Prost Message) (dst : Bytes) : Sent Message → Except SapientError Bytes
  | .message msg => encodeMessage prost msg dst
  | .vec payload => encodeVec payload dst

/-- What `decode` returns once the given payload has been handed to prost. -/
def answer (prost : Prost Message) (payload : Bytes) : Except SapientError (Option Message) :=
  match prost.decode payload with
  | .error failure => .error (.decode failure)
  | .ok msg => .ok (some msg)

/-- Whatever an encoder appends to the buffer, the decoder consumes it all and hands
exactly the payload to prost. -/
def ReadsBack (prost : Prost Message) (sent : Sent Message) (dst : Bytes) : Prop :=
  ∀ written, encodeSent prost dst sent = .ok written →
    ∃ appended, written = dst ++ appended ∧
      ∀ {Read : Type} (reader : Prost Read),
        decode reader appended = (answer reader (sent.payload prost), [])

def RefusesLarge (prost : Prost Message) (sent : Sent Message) (dst : Bytes) : Prop :=
  maxFrameBytes < (sent.payload prost).length →
    ∃ failure, encodeSent prost dst sent = .error failure

/-- A payload under the low 32 bits of its length. -/
def wrappedFrame (payload : Bytes) : Bytes := putU32Le (payload.length % 2 ^ 32) ++ payload

theorem encodeSent_ok (prost : Prost Message) (sent : Sent Message) (dst : Bytes) :
    encodeSent prost dst sent = .ok (dst ++ wrappedFrame (sent.payload prost)) := by
  cases sent <;> simp [encodeSent, encodeMessage, encodeVec, putFrame, wrappedFrame, Sent.payload]

/-- The decoder reads the length that was written. -/
theorem decode_wrappedFrame (reader : Prost Message) (payload : Bytes) :
    decode reader (wrappedFrame payload) =
      if maxFrameBytes < payload.length % 2 ^ 32 then
        (.error (.frameTooLarge (payload.length % 2 ^ 32) maxFrameBytes), wrappedFrame payload)
      else
        (answer reader (payload.take (payload.length % 2 ^ 32)),
          payload.drop (payload.length % 2 ^ 32)) := by
  have small : payload.length % 2 ^ 32 < 2 ^ 32 := Nat.mod_lt _ (by decide)
  have prefixed := u32_round_trip small
  have length : (wrappedFrame payload).length = 4 + payload.length := by
    simp only [wrappedFrame, putU32Le, List.length_append, List.length_cons, List.length_nil]
  -- The residue is never longer than the payload, so a frame is always complete.
  have whole : ¬ (wrappedFrame payload).length < 4 + payload.length % 2 ^ 32 := by
    have residue := Nat.mod_le payload.length (2 ^ 32)
    omega
  simp only [wrappedFrame, putU32Le, List.cons_append, List.nil_append] at whole ⊢
  simp only [decode, prefixed, whole, if_false, answer]
  split
  · rfl
  · cases reader.decode (payload.take (payload.length % 2 ^ 32)) <;> rfl

theorem wrappedFrame_ne_nil (payload : Bytes) : wrappedFrame payload ≠ [] := by
  simp [wrappedFrame, putU32Le]

def contents (prost : Prost Message) (payload : Bytes) : Except SapientError Message :=
  if maxFrameBytes < payload.length then
    .error (.frameTooLarge payload.length maxFrameBytes)
  else match prost.decode payload with
    | .error failure => .error (.decode failure)
    | .ok msg => .ok msg

/-- A frame is read as its contents whatever follows it, if its length fits into the prefix. -/
theorem carries_wrappedFrame (prost : Prost Message) {payload : Bytes}
    (small : payload.length < 2 ^ 32) :
    Carries (sapientCodec prost) wrappedFrame (contents prost) payload := by
  intro rest
  have whole : ¬ (payload ++ rest).length < payload.length := by simp
  have decoded : outcome prost (wrappedFrame payload ++ rest) =
      frameOutcome prost payload.length (wrappedFrame payload ++ rest) (payload ++ rest) := by
    simp only [wrappedFrame, Nat.mod_eq_of_lt small, putU32Le, List.cons_append, List.nil_append]
    rw [outcome_frame, u32_round_trip small]
  simp only [sapientCodec, contents, decoded, frameOutcome]
  by_cases large : maxFrameBytes < payload.length
  · simp [large]
  · simp only [large, whole, if_false, List.take_left, List.drop_left]
    cases prost.decode payload with
    | ok msg => rfl
    | error failure => exact ⟨_, rfl⟩

def rawProst : Prost Bytes := ⟨id, .ok⟩

theorem readsBack_iff (prost : Prost Message) (sent : Sent Message) (dst : Bytes) :
    ReadsBack prost sent dst ↔ (sent.payload prost).length ≤ maxFrameBytes := by
  constructor
  · intro reads
    obtain ⟨appended, written, decoded⟩ := reads _ (encodeSent_ok prost sent dst)
    obtain rfl := List.append_cancel_left written
    have read := decoded rawProst
    rw [decode_wrappedFrame] at read
    split at read
    -- Refused: the frame is left in the buffer.
    · exact absurd (congrArg Prod.snd read) (wrappedFrame_ne_nil _)
    -- Accepted: nothing is left only if the residue is the whole length.
    · next accepted =>
        have left := List.drop_eq_nil_iff.mp (congrArg Prod.snd read)
        omega
  · intro fits written encoded
    rw [encodeSent_ok] at encoded
    cases encoded
    refine ⟨_, rfl, fun reader => ?_⟩
    have same : (sent.payload prost).length % 2 ^ 32 = (sent.payload prost).length :=
      Nat.mod_eq_of_lt (Nat.lt_of_le_of_lt fits maxFrameBytes_lt)
    rw [decode_wrappedFrame, same, if_neg (Nat.not_lt.mpr fits), List.take_length,
      List.drop_length]

theorem refusesLarge_iff (prost : Prost Message) (sent : Sent Message) (dst : Bytes) :
    RefusesLarge prost sent dst ↔ (sent.payload prost).length ≤ maxFrameBytes := by
  constructor
  · intro refuses
    by_contra large
    obtain ⟨failure, refused⟩ := refuses (Nat.lt_of_not_le large)
    rw [encodeSent_ok] at refused
    cases refused
  · intro fits large
    exact absurd fits (Nat.not_le.mpr large)

/-- What an encoder writes is read back by the decoder, and what the decoder would not
accept is refused, exactly for the payloads within the decoder's limit. -/
theorem frames_agree_iff (prost : Prost Message) (sent : Sent Message) (dst : Bytes) :
    (ReadsBack prost sent dst ↔ (sent.payload prost).length ≤ maxFrameBytes) ∧
      (RefusesLarge prost sent dst ↔ (sent.payload prost).length ≤ maxFrameBytes) :=
  ⟨readsBack_iff prost sent dst, refusesLarge_iff prost sent dst⟩

def oversized : Sent Bytes := .vec (List.replicate (maxFrameBytes + 1) 0)

theorem oversized_encoded :
    ¬ ∀ (prost : Prost Bytes) (sent : Sent Bytes) (dst : Bytes),
      ReadsBack prost sent dst ∧ RefusesLarge prost sent dst := by
  intro agree
  have fits := (refusesLarge_iff rawProst oversized []).mp (agree rawProst oversized []).2
  rw [oversized, Sent.payload, List.length_replicate] at fits
  omega

end PeatSapient.Codec
