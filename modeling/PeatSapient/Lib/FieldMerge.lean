import Mathlib.Data.List.Induction
import PeatSapient.Lib.HashMap

/-! Documents that are merged field by field. A write carries some fields; the document
takes those over and keeps its others, so that each field shows its last write. -/

namespace PeatSapient.FieldMerge

open HashMap

universe u v
variable {Key : Type u} [DecidableEq Key] {Value : Type v}

/-- A way to merge a write into a document in which a later write wins for each field. -/
structure LastWriterWins (Key : Type u) [DecidableEq Key] (Value : Type v) where
  merge : Table Key Value → Table Key Value → Table Key Value
  lookup_merge : ∀ document write key,
    (merge document write).lookup key = (write.lookup key).or (document.lookup key)

def preferWrite : LastWriterWins Key Value where
  merge := fun document write => write ∪ document
  lookup_merge := by
    intro document write key
    by_cases written : key ∈ write
    · obtain ⟨value, found⟩ := Option.isSome_iff_exists.mp (AList.lookup_isSome.mpr written)
      rw [AList.lookup_union_left written, found]
      rfl
    · rw [AList.lookup_union_right written, AList.lookup_eq_none.mpr written]
      rfl

def mergeAll (mesh : LastWriterWins Key Value) (writes : List (Table Key Value)) :
    Table Key Value :=
  writes.foldl mesh.merge ∅

theorem mergeAll_snoc (mesh : LastWriterWins Key Value) (writes : List (Table Key Value))
    (write : Table Key Value) :
    mergeAll mesh (writes ++ [write]) = mesh.merge (mergeAll mesh writes) write := by
  simp [mergeAll]

theorem lookup_mergeAll (mesh : LastWriterWins Key Value) (writes : List (Table Key Value))
    (key : Key) :
    (mergeAll mesh writes).lookup key =
      (writes.filterMap fun write => write.lookup key).getLast? := by
  induction writes using List.reverseRecOn with
  | nil => rfl
  | append_singleton writes write ih =>
      rw [mergeAll_snoc, mesh.lookup_merge, ih, List.filterMap_append]
      cases carried : write.lookup key with
      | none => simp [carried]
      | some value => simp [carried]

section Sources

universe w
variable {Source : Type w} [DecidableEq Source]

def writesOf (source : Source) (writes : List (Source × Table Key Value)) :
    List (Table Key Value) :=
  (writes.filter fun write => write.1 = source).map Prod.snd

omit [DecidableEq Key] in
theorem writesOf_snoc (source : Source) (writes : List (Source × Table Key Value))
    (write : Source × Table Key Value) :
    writesOf source (writes ++ [write]) =
      writesOf source writes ++ if write.1 = source then [write.2] else [] := by
  by_cases own : write.1 = source <;> simp [writesOf, own]

/-- Each field of the document is one that some source shows; it is missing only where it is
missing from all of them. -/
def FieldwiseFrom (document : Table Key Value) (documents : Source → Table Key Value) : Prop :=
  ∀ key, match document.lookup key with
    | some value => ∃ source, (documents source).lookup key = some value
    | none => ∀ source, (documents source).lookup key = none

/-- However the writes of several sources are interleaved. -/
theorem fieldwise_mergeAll (mesh : LastWriterWins Key Value)
    (writes : List (Source × Table Key Value)) :
    FieldwiseFrom (mergeAll mesh (writes.map Prod.snd))
      fun source => mergeAll mesh (writesOf source writes) := by
  intro key
  induction writes using List.reverseRecOn with
  | nil =>
      intro source
      rfl
  | append_singleton writes write ih =>
      have shows : ∀ source, (mergeAll mesh (writesOf source (writes ++ [write]))).lookup key =
          if write.1 = source then
            (write.2.lookup key).or ((mergeAll mesh (writesOf source writes)).lookup key)
          else (mergeAll mesh (writesOf source writes)).lookup key := by
        intro source
        rw [writesOf_snoc]
        split
        · rw [mergeAll_snoc, mesh.lookup_merge]
        · rw [List.append_nil]
      simp only [shows, List.map_append, List.map_singleton, mergeAll_snoc, mesh.lookup_merge]
      cases carried : write.2.lookup key with
      | some value => exact ⟨write.1, by simp⟩
      | none => simpa using ih

omit [DecidableEq Key] in
theorem writesOf_single {source : Source} {writes : List (Source × Table Key Value)}
    (alone : ∀ other, other ≠ source → writesOf other writes = []) :
    writes.map Prod.snd = writesOf source writes := by
  induction writes using List.reverseRecOn with
  | nil => rfl
  | append_singleton writes write ih =>
      simp only [writesOf_snoc, List.append_eq_nil_iff] at alone
      have own : write.1 = source := by
        by_contra apart
        simpa using (alone write.1 apart).2
      rw [writesOf_snoc, if_pos own, List.map_append, List.map_singleton,
        ih fun other apart => (alone other apart).1]

end Sources

end PeatSapient.FieldMerge
