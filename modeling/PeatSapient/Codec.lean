import Mathlib.Algebra.Group.Nat.Defs
import PeatSapient.Error
import PeatSapient.Lib.Incremental

/-! The framing of codec.rs: a little-endian length in four bytes, then the
protobuf body. The protobuf library is a parameter, a pair of functions on
payload bytes; reserving buffer space has no effect here. -/

namespace PeatSapient.Codec

open Incremental

abbrev Bytes := List UInt8

def maxFrameBytes : Nat := 16 * 1024 * 1024

structure Prost (Message : Type) where
  encodeToVec : Message → Bytes
  decode : Bytes → Except DecodeError Message

variable {Message : Type}

def u32FromLeBytes (b0 b1 b2 b3 : UInt8) : Nat :=
  b0.toNat + 256 * b1.toNat + 65536 * b2.toNat + 16777216 * b3.toNat

def putU32Le (value : Nat) : Bytes :=
  [UInt8.ofNat value, UInt8.ofNat (value / 256), UInt8.ofNat (value / 65536),
    UInt8.ofNat (value / 16777216)]

-- The cast `payload.len() as u32` keeps the low 32 bits.
def putFrame (payload dst : Bytes) : Except SapientError Bytes :=
  .ok (dst ++ putU32Le (payload.length % 2 ^ 32) ++ payload)

def encodeMessage (prost : Prost Message) (msg : Message) (dst : Bytes) :
    Except SapientError Bytes :=
  putFrame (prost.encodeToVec msg) dst

def encodeVec (payload dst : Bytes) : Except SapientError Bytes := putFrame payload dst

def decode (prost : Prost Message) (src : Bytes) :
    Except SapientError (Option Message) × Bytes :=
  match src with
  | b0 :: b1 :: b2 :: b3 :: body =>
      let len := u32FromLeBytes b0 b1 b2 b3
      if maxFrameBytes < len then (.error (.frameTooLarge len maxFrameBytes), src)
      else if src.length < 4 + len then (.ok none, src)
      else match prost.decode (body.take len) with
        | .error failure => (.error (.decode failure), body.drop len)
        | .ok msg => (.ok (some msg), body.drop len)
  | _ => (.ok none, src)

/-- `decode` as the reader's loop sees it. -/
def outcome (prost : Prost Message) (src : Bytes) : Outcome UInt8 Message SapientError :=
  match decode prost src with
  | (.ok none, rest) => .more rest
  | (.ok (some msg), rest) => .item msg rest
  | (.error failure, rest) => .fail failure rest

def frameOutcome (prost : Prost Message) (len : Nat) (src body : Bytes) :
    Outcome UInt8 Message SapientError :=
  if maxFrameBytes < len then .fail (.frameTooLarge len maxFrameBytes) src
  else if body.length < len then .more src
  else match prost.decode (body.take len) with
    | .error failure => .fail (.decode failure) (body.drop len)
    | .ok msg => .item msg (body.drop len)

theorem outcome_short (prost : Prost Message) {src : Bytes} (short : src.length < 4) :
    outcome prost src = .more src := by
  match src, short with
  | [], _ | [_], _ | [_, _], _ | [_, _, _], _ => rfl

theorem outcome_frame (prost : Prost Message) (b0 b1 b2 b3 : UInt8) (body : Bytes) :
    outcome prost (b0 :: b1 :: b2 :: b3 :: body) =
      frameOutcome prost (u32FromLeBytes b0 b1 b2 b3) (b0 :: b1 :: b2 :: b3 :: body) body := by
  have short : (b0 :: b1 :: b2 :: b3 :: body).length < 4 + u32FromLeBytes b0 b1 b2 b3 ↔
      body.length < u32FromLeBytes b0 b1 b2 b3 := by
    simp only [List.length_cons]
    omega
  unfold outcome decode frameOutcome
  simp only [short]
  by_cases large : maxFrameBytes < u32FromLeBytes b0 b1 b2 b3
  · simp [large]
  · by_cases partly : body.length < u32FromLeBytes b0 b1 b2 b3
    · simp [large, partly]
    · simp only [large, partly, if_false]
      cases prost.decode (body.take (u32FromLeBytes b0 b1 b2 b3)) <;> rfl

theorem four_or_short (src : Bytes) :
    src.length < 4 ∨ ∃ b0 b1 b2 b3 body, src = b0 :: b1 :: b2 :: b3 :: body := by
  match src with
  | [] | [_] | [_, _] | [_, _, _] => simp
  | b0 :: b1 :: b2 :: b3 :: body => exact Or.inr ⟨b0, b1, b2, b3, body, rfl⟩

/-- A frame's outcome depends on its own bytes only. -/
theorem frameOutcome_append (prost : Prost Message) (len : Nat) (src body extra : Bytes)
    (decided : ∀ rest, frameOutcome prost len src body ≠ .more rest) :
    frameOutcome prost len (src ++ extra) (body ++ extra) =
      match frameOutcome prost len src body with
      | .more rest => .more rest
      | .item msg rest => .item msg (rest ++ extra)
      | .fail failure rest => .fail failure (rest ++ extra) := by
  unfold frameOutcome at decided ⊢
  by_cases large : maxFrameBytes < len
  · simp [large]
  · by_cases partly : body.length < len
    · simp [large, partly] at decided
    -- The body is complete, so what follows it is cut off on both sides.
    · have enough : len ≤ body.length := Nat.le_of_not_lt partly
      have whole : ¬ (body ++ extra).length < len := by
        rw [List.length_append]
        omega
      simp only [large, partly, whole, if_false, List.take_append_of_le_length enough,
        List.drop_append_of_le_length enough]
      cases prost.decode (body.take len) <;> rfl

theorem outcome_append (prost : Prost Message) (src extra : Bytes)
    (decided : ∀ rest, outcome prost src ≠ .more rest) :
    outcome prost (src ++ extra) =
      match outcome prost src with
      | .more rest => .more rest
      | .item msg rest => .item msg (rest ++ extra)
      | .fail failure rest => .fail failure (rest ++ extra) := by
  rcases four_or_short src with short | ⟨b0, b1, b2, b3, body, rfl⟩
  · exact absurd (outcome_short prost short) (decided src)
  · rw [outcome_frame] at decided ⊢
    simp only [List.cons_append, outcome_frame]
    exact frameOutcome_append prost _ (b0 :: b1 :: b2 :: b3 :: body) body extra decided

theorem outcome_consumes (prost : Prost Message) (src rest : Bytes) (msg : Message)
    (decoded : outcome prost src = .item msg rest) : rest.length < src.length := by
  rcases four_or_short src with short | ⟨b0, b1, b2, b3, body, rfl⟩
  · rw [outcome_short prost short] at decoded
    cases decoded
  · rw [outcome_frame, frameOutcome] at decoded
    split at decoded
    · cases decoded
    · split at decoded
      · cases decoded
      · split at decoded
        · cases decoded
        · cases decoded
          simp only [List.length_drop, List.length_cons]
          omega

theorem outcome_waits (prost : Prost Message) (src rest : Bytes)
    (decoded : outcome prost src = .more rest) : rest = src := by
  rcases four_or_short src with short | ⟨b0, b1, b2, b3, body, rfl⟩
  · rw [outcome_short prost short] at decoded
    cases decoded
    rfl
  · rw [outcome_frame, frameOutcome] at decoded
    split at decoded
    · cases decoded
    · split at decoded
      · cases decoded
        rfl
      · split at decoded <;> cases decoded

def sapientCodec (prost : Prost Message) : Decoder UInt8 Message SapientError where
  decode := outcome prost
  waits := outcome_waits prost
  shrinks := fun src msg rest decoded => outcome_consumes prost src rest msg decoded
  itemStable := by
    intro src msg rest extra decoded
    rw [outcome_append prost src extra (by simp [decoded]), decoded]
  failStable := by
    intro src failure rest extra decoded
    rw [outcome_append prost src extra (by simp [decoded]), decoded]

def littleEndian : Bytes → Nat
  | [] => 0
  | byte :: rest => byte.toNat + 256 * littleEndian rest

def parse (prost : Prost Message) (src : Bytes) : Parsed UInt8 Message SapientError :=
  if src.length < 4 then ⟨[], none, src⟩
  else
    let len := littleEndian (src.take 4)
    let body := src.drop 4
    if maxFrameBytes < len then ⟨[], some (.frameTooLarge len maxFrameBytes), src⟩
    else if body.length < len then ⟨[], none, src⟩
    else match prost.decode (body.take len) with
      | .error failure => ⟨[], some (.decode failure), body.drop len⟩
      | .ok msg =>
          let later := parse prost (body.drop len)
          { later with items := msg :: later.items }
termination_by src.length
decreasing_by
  simp only [List.length_drop]
  omega

theorem parse_short (prost : Prost Message) {src : Bytes} (short : src.length < 4) :
    parse prost src = ⟨[], none, src⟩ := by
  rw [parse, if_pos short]

theorem parse_frame (prost : Prost Message) (b0 b1 b2 b3 : UInt8) (body : Bytes) :
    parse prost (b0 :: b1 :: b2 :: b3 :: body) =
      match frameOutcome prost (u32FromLeBytes b0 b1 b2 b3)
        (b0 :: b1 :: b2 :: b3 :: body) body with
      | .more rest => ⟨[], none, rest⟩
      | .fail failure rest => ⟨[], some failure, rest⟩
      | .item msg rest =>
          { parse prost rest with items := msg :: (parse prost rest).items } := by
  have long : ¬ (b0 :: b1 :: b2 :: b3 :: body).length < 4 := by simp
  have length : littleEndian [b0, b1, b2, b3] = u32FromLeBytes b0 b1 b2 b3 := by
    simp only [littleEndian, u32FromLeBytes]
    omega
  rw [parse, if_neg long]
  simp only [List.take_succ_cons, List.take_zero, List.drop_succ_cons, List.drop_zero, length]
  unfold frameOutcome
  by_cases large : maxFrameBytes < u32FromLeBytes b0 b1 b2 b3
  · simp [large]
  · by_cases partly : body.length < u32FromLeBytes b0 b1 b2 b3
    · simp [large, partly]
    · simp only [large, partly, if_false]
      cases prost.decode (body.take (u32FromLeBytes b0 b1 b2 b3)) <;> rfl

/-- Draining the whole string is the reference parse. -/
theorem drain_parse (prost : Prost Message) (src : Bytes) :
    drain (sapientCodec prost) src = parse prost src := by
  induction src using drain.induct (sapientCodec prost) with
  | case1 src rest decoded =>
      rw [drain_more _ decoded]
      rcases four_or_short src with short | ⟨b0, b1, b2, b3, body, rfl⟩
      · rw [parse_short prost short]
      · have frame := (outcome_frame prost b0 b1 b2 b3 body).symm.trans decoded
        rw [parse_frame, frame, outcome_waits prost _ _ decoded]
  | case2 src failure rest decoded =>
      rw [drain_fail _ decoded]
      rcases four_or_short src with short | ⟨b0, b1, b2, b3, body, rfl⟩
      · cases (outcome_short prost short).symm.trans decoded
      · have frame := (outcome_frame prost b0 b1 b2 b3 body).symm.trans decoded
        rw [parse_frame, frame]
  | case3 src msg rest decoded shorter ih =>
      rw [drain_item _ decoded, ih]
      rcases four_or_short src with short | ⟨b0, b1, b2, b3, body, rfl⟩
      · cases (outcome_short prost short).symm.trans decoded
      · have frame := (outcome_frame prost b0 b1 b2 b3 body).symm.trans decoded
        rw [parse_frame, frame]

end PeatSapient.Codec
