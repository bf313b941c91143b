import Mathlib.Data.List.Basic

/-! Decoding a stream that arrives in chunks. A decoder looks at a buffer and
asks for more, hands out an item, or fails; a stable one never changes its mind
when more symbols are appended. Then the chunk boundaries cannot be observed. -/

namespace PeatSapient.Incremental

universe u v w
variable {Symbol : Type u} {Item : Type v} {Failure : Type w}

inductive Outcome (Symbol : Type u) (Item : Type v) (Failure : Type w) where
  | more (rest : List Symbol)
  | item (value : Item) (rest : List Symbol)
  | fail (failure : Failure) (rest : List Symbol)

structure Decoder (Symbol : Type u) (Item : Type v) (Failure : Type w) where
  decode : List Symbol → Outcome Symbol Item Failure
  waits : ∀ buffer rest, decode buffer = .more rest → rest = buffer
  shrinks : ∀ buffer value rest, decode buffer = .item value rest →
    rest.length < buffer.length
  itemStable : ∀ buffer value rest extra, decode buffer = .item value rest →
    decode (buffer ++ extra) = .item value (rest ++ extra)
  failStable : ∀ buffer failure rest extra, decode buffer = .fail failure rest →
    decode (buffer ++ extra) = .fail failure (rest ++ extra)

structure Parsed (Symbol : Type u) (Item : Type v) (Failure : Type w) where
  items : List Item
  failure : Option Failure
  rest : List Symbol

def drain (decoder : Decoder Symbol Item Failure) (buffer : List Symbol) :
    Parsed Symbol Item Failure :=
  match decoded : decoder.decode buffer with
  | .more rest => ⟨[], none, rest⟩
  | .fail failure rest => ⟨[], some failure, rest⟩
  | .item value rest =>
      have := decoder.shrinks buffer value rest decoded
      let later := drain decoder rest
      { later with items := value :: later.items }
termination_by buffer.length

/-- Append each chunk in turn and drain; after a failure nothing more is read. -/
def feed (decoder : Decoder Symbol Item Failure) :
    List Symbol → List (List Symbol) → Parsed Symbol Item Failure
  | buffer, [] => ⟨[], none, buffer⟩
  | buffer, chunk :: chunks =>
      let now := drain decoder (buffer ++ chunk)
      match now.failure with
      | some _ => { now with rest := now.rest ++ chunks.flatten }
      | none =>
          let later := feed decoder now.rest chunks
          { later with items := now.items ++ later.items }

theorem drain_more (decoder : Decoder Symbol Item Failure) {buffer rest : List Symbol}
    (decoded : decoder.decode buffer = .more rest) :
    drain decoder buffer = ⟨[], none, buffer⟩ := by
  rw [drain]
  split
  · next left found => rw [decoder.waits _ _ found]
  · simp_all
  · simp_all

theorem drain_fail (decoder : Decoder Symbol Item Failure) {buffer rest : List Symbol}
    {failure : Failure} (decoded : decoder.decode buffer = .fail failure rest) :
    drain decoder buffer = ⟨[], some failure, rest⟩ := by
  rw [drain]
  split <;> simp_all

theorem drain_item (decoder : Decoder Symbol Item Failure) {buffer rest : List Symbol}
    {value : Item} (decoded : decoder.decode buffer = .item value rest) :
    drain decoder buffer =
      { drain decoder rest with items := value :: (drain decoder rest).items } := by
  rw [drain]
  split <;> simp_all

theorem drain_waits (decoder : Decoder Symbol Item Failure) (buffer : List Symbol)
    (quiet : (drain decoder buffer).failure = none) :
    decoder.decode (drain decoder buffer).rest = .more (drain decoder buffer).rest := by
  induction buffer using drain.induct decoder with
  | case1 buffer rest decoded =>
      rw [drain_more decoder decoded, decoded, decoder.waits _ _ decoded]
  | case2 buffer failure rest decoded => simp [drain_fail decoder decoded] at quiet
  | case3 buffer value rest decoded shorter ih =>
      rw [drain_item decoder decoded] at quiet ⊢
      exact ih quiet

/-- Whether the buffer is drained before or after more symbols arrive makes no
difference: a failure leaves them unread, otherwise the rest is drained later. -/
theorem drain_append (decoder : Decoder Symbol Item Failure) (buffer extra : List Symbol) :
    drain decoder (buffer ++ extra) =
      let now := drain decoder buffer
      match now.failure with
      | some _ => { now with rest := now.rest ++ extra }
      | none =>
          let later := drain decoder (now.rest ++ extra)
          { later with items := now.items ++ later.items } := by
  induction buffer using drain.induct decoder with
  -- The induction follows the drain of the buffer that came first.
  | case1 buffer rest decoded => rw [drain_more decoder decoded]; rfl
  | case2 buffer failure rest decoded =>
      rw [drain_fail decoder decoded,
        drain_fail decoder (decoder.failStable _ _ _ extra decoded)]
  | case3 buffer value rest decoded shorter ih =>
      rw [drain_item decoder decoded,
        drain_item decoder (decoder.itemStable _ _ _ extra decoded), ih]
      cases failed : (drain decoder rest).failure <;> simp [failed]

/-- Chunk boundaries are unobservable. -/
theorem feed_flatten (decoder : Decoder Symbol Item Failure) (buffer : List Symbol)
    (chunks : List (List Symbol)) (quiet : decoder.decode buffer = .more buffer) :
    feed decoder buffer chunks = drain decoder (buffer ++ chunks.flatten) := by
  induction chunks generalizing buffer with
  | nil => rw [List.flatten_nil, List.append_nil, drain_more decoder quiet]; rfl
  | cons chunk chunks ih =>
      rw [feed, List.flatten_cons, ← List.append_assoc, drain_append decoder (buffer ++ chunk)]
      cases failed : (drain decoder (buffer ++ chunk)).failure with
      | some failure => simp [failed]
      | none =>
          simp [failed, ih _ (drain_waits decoder _ failed)]

end PeatSapient.Incremental
