import PeatSapient.Lib.Incremental

/-! A reader at the end of a stream of frames. The writer appends one frame for each payload,
and may stop in the middle of one; the reader takes symbols in chunks of any size and decodes
what it holds. It reads the payloads in their order, and stops at the first it cannot decode. -/

namespace PeatSapient.Incremental

universe u v w x
variable {Symbol : Type u} {Item : Type v} {Failure : Type w} {Payload : Type x}

/-- The frame of this payload is decoded to its contents, whatever follows it. -/
def Carries (decoder : Decoder Symbol Item Failure) (frame : Payload → List Symbol)
    (contents : Payload → Except Failure Item) (payload : Payload) : Prop :=
  ∀ rest, match contents payload with
    | .ok item => decoder.decode (frame payload ++ rest) = .item item rest
    | .error failure => ∃ left, decoder.decode (frame payload ++ rest) = .fail failure left

/-- Of this stream so many symbols have been taken, and the buffer holds what follows the
frames of the items read. -/
structure Reading (frame : Payload → List Symbol) (contents : Payload → Except Failure Item)
    (payloads : List Payload) (taken buffer : List Symbol) (items : List Item) : Prop where
  within : taken <+: payloads.flatMap frame
  read : ∃ done rest, payloads = done ++ rest ∧ done.map contents = items.map .ok ∧
    taken = done.flatMap frame ++ buffer

variable {decoder : Decoder Symbol Item Failure} {frame : Payload → List Symbol}
  {contents : Payload → Except Failure Item} {payloads : List Payload}
  {taken buffer : List Symbol} {items : List Item}

theorem Reading.start (payloads : List Payload) :
    Reading frame contents payloads [] [] [] :=
  ⟨List.nil_prefix, [], payloads, rfl, rfl, rfl⟩

theorem Reading.offer (reading : Reading frame contents payloads taken buffer items)
    (more : List Payload) : Reading frame contents (payloads ++ more) taken buffer items := by
  obtain ⟨within, done, rest, split, read, held⟩ := reading
  refine ⟨?_, done, rest ++ more, by simp [split], read, held⟩
  rw [List.flatMap_append]
  exact within.trans (List.prefix_append _ _)

theorem Reading.arrive (reading : Reading frame contents payloads taken buffer items)
    {symbols : List Symbol} (within : taken ++ symbols <+: payloads.flatMap frame) :
    Reading frame contents payloads (taken ++ symbols) (buffer ++ symbols) items := by
  obtain ⟨_, done, rest, split, read, held⟩ := reading
  exact ⟨within, done, rest, split, read, by rw [held, List.append_assoc]⟩

theorem Reading.buffered (reading : Reading frame contents payloads taken buffer items) :
    ∃ done rest extra, payloads = done ++ rest ∧ done.map contents = items.map .ok ∧
      taken = done.flatMap frame ++ buffer ∧ buffer ++ extra = rest.flatMap frame := by
  obtain ⟨⟨extra, whole⟩, done, rest, split, read, held⟩ := reading
  refine ⟨done, rest, extra, split, read, held, ?_⟩
  rw [held, split, List.flatMap_append, List.append_assoc] at whole
  exact List.append_cancel_left whole

theorem Reading.item (reading : Reading frame contents payloads taken buffer items)
    (empty : decoder.decode [] = .more [])
    (carried : ∀ payload ∈ payloads, Carries decoder frame contents payload)
    {item : Item} {left : List Symbol} (decoded : decoder.decode buffer = .item item left) :
    Reading frame contents payloads taken left (items ++ [item]) := by
  obtain ⟨done, rest, extra, split, read, held, ahead⟩ := reading.buffered
  have stable := decoder.itemStable _ _ _ extra decoded
  rw [ahead] at stable
  cases rest with
  | nil =>
      rw [List.flatMap_nil, empty] at stable
      cases stable
  | cons payload later =>
      have carries := carried payload (by simp [split]) (later.flatMap frame)
      rw [List.flatMap_cons] at stable ahead
      cases value : contents payload with
      | error failure =>
          rw [value] at carries
          obtain ⟨_, failed⟩ := carries
          rw [failed] at stable
          cases stable
      | ok found =>
          rw [value] at carries
          rw [show decoder.decode (frame payload ++ later.flatMap frame) = .item found _ from
            carries, Outcome.item.injEq] at stable
          obtain ⟨rfl, after⟩ := stable
          -- The frame is all that has left the buffer.
          have consumed : buffer = frame payload ++ left := by
            rw [after, ← List.append_assoc] at ahead
            exact List.append_cancel_right ahead
          refine ⟨reading.within, done ++ [payload], later, by simp [split], ?_, ?_⟩
          · simp [read, value]
          · simp [held, consumed]

/-- A reader that waits has read every payload whose frame it has taken whole. -/
theorem Reading.caught_up (reading : Reading frame contents payloads taken buffer items)
    (carried : ∀ payload ∈ payloads, Carries decoder frame contents payload)
    {left : List Symbol} (waiting : decoder.decode buffer = .more left)
    {whole rest : List Payload} (split : payloads = whole ++ rest)
    (arrived : whole.flatMap frame <+: taken) : whole.length ≤ items.length := by
  obtain ⟨_, done, later, parts, read, held⟩ := reading
  have counted : done.length = items.length := by simpa using congrArg List.length read
  rw [← counted]
  by_contra ahead
  rw [Nat.not_le] at ahead
  have shorter : done <+: whole := by
    apply List.prefix_of_prefix_length_le _ _ (Nat.le_of_lt ahead)
    · exact payloads
    · exact ⟨later, parts.symm⟩
    · exact ⟨rest, split.symm⟩
  obtain ⟨next, rfl⟩ := shorter
  cases next with
  | nil => simp at ahead
  | cons payload others =>
      -- The frame of the next payload stands whole at the head of the buffer.
      obtain ⟨extra, arrived⟩ := arrived
      rw [held, List.flatMap_append, List.flatMap_cons, List.append_assoc] at arrived
      have head := List.append_cancel_left arrived
      rw [List.append_assoc] at head
      have carries := carried payload (by simp [split]) (others.flatMap frame ++ extra)
      rw [← head] at waiting
      cases value : contents payload with
      | ok item =>
          rw [value] at carries
          rw [show decoder.decode _ = .item item _ from carries] at waiting
          cases waiting
      | error failure =>
          rw [value] at carries
          obtain ⟨_, failed⟩ := carries
          rw [failed] at waiting
          cases waiting

end PeatSapient.Incremental
