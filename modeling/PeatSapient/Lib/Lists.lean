import Mathlib.Data.List.Perm.Basic

/-! Two facts about filters: grouping items by key and reading every group back
permutes them, and a filter by a test that only holds of earlier items takes a
prefix. -/

namespace PeatSapient.Lists

universe u v
variable {Item : Type u} {Key : Type v}

theorem group_perm [DecidableEq Key] (keyOf : Item → Key) (keys : List Key)
    (unique : keys.Nodup) (items : List Item) (covered : ∀ item ∈ items, keyOf item ∈ keys) :
    (keys.flatMap fun key => items.filter fun item => keyOf item = key).Perm items := by
  induction keys generalizing items with
  | nil =>
      have empty : items = [] :=
        List.eq_nil_iff_forall_not_mem.mpr fun item member => by simpa using covered item member
      simp [empty]
  | cons key rest ih =>
      obtain ⟨fresh, restUnique⟩ := List.nodup_cons.mp unique
      -- The first key's group is set apart, and the others still partition what is left.
      let others := items.filter fun item => ¬ keyOf item = key
      have othersCovered : ∀ item ∈ others, keyOf item ∈ rest := by
        intro item member
        obtain ⟨listed, different⟩ := List.mem_filter.mp member
        have differs : keyOf item ≠ key := by simpa using different
        exact (List.mem_cons.mp (covered item listed)).resolve_left differs
      have sameGroups : (rest.flatMap fun other => items.filter fun item => keyOf item = other) =
          rest.flatMap fun other => others.filter fun item => keyOf item = other := by
        apply List.flatMap_congr
        intro other member
        have distinct : other ≠ key := fun same => fresh (same ▸ member)
        rw [List.filter_filter]
        apply List.filter_congr
        intro item _
        by_cases named : keyOf item = other
        · simp [named, distinct]
        · simp [named]
      rw [List.flatMap_cons, sameGroups]
      apply (List.Perm.append_left _ (ih restUnique others othersCovered)).trans
      simpa [others] using List.filter_append_perm (fun item => keyOf item = key) items

theorem filter_prefix (test : Item → Bool) (items : List Item)
    (downward : items.Pairwise fun earlier later => test later = true → test earlier = true) :
    items.filter test ++ items.filter (fun item => !test item) = items := by
  induction items with
  | nil => rfl
  | cons item rest ih =>
      obtain ⟨fromHead, tail⟩ := List.pairwise_cons.mp downward
      by_cases hit : test item = true
      · simp [hit, ih tail]
      -- One item fails the test, so all later ones do.
      · have noneLater : rest.filter test = [] := by
          apply List.filter_eq_nil_iff.mpr
          intro later member taken
          exact hit (fromHead later member taken)
        have allKept : rest.filter (fun item => !test item) = rest := by
          simpa [noneLater] using ih tail
        simp [hit, noneLater, allKept]

end PeatSapient.Lists
