import Mathlib.Data.List.AList

/-! Finite maps with unique keys. Mathlib's association lists supply insertion,
removal and lookup. A hash map enumerates its entries in no promised order, so
the lemmas below speak of lookups and of membership only. -/

namespace PeatSapient.HashMap

universe u v w
variable {Key : Type u} [DecidableEq Key] {Value : Type v} {Image : Type w}

abbrev Table (Key : Type u) (Value : Type v) := AList fun _ : Key => Value

def mapValues (change : Value → Image) (table : Table Key Value) : Table Key Image where
  entries := table.entries.map fun entry => ⟨entry.1, change entry.2⟩
  nodupKeys := by
    have keys : (table.entries.map fun entry =>
        (⟨entry.1, change entry.2⟩ : Sigma fun _ : Key => Image)).keys =
          table.entries.keys := by
      simp [List.keys, List.map_map, Function.comp_def]
    unfold List.NodupKeys
    rw [keys]
    exact table.nodupKeys

@[simp] theorem lookup_mapValues (change : Value → Image) (table : Table Key Value)
    (key : Key) : (mapValues change table).lookup key = (table.lookup key).map change :=
  @List.dlookup_map₂ Key _ (fun _ => Value) (fun _ => Image) table.entries
    (fun _ => change) key

theorem lookup_insert_eq (table : Table Key Value) (added key : Key) (value : Value) :
    (table.insert added value).lookup key =
      if key = added then some value else table.lookup key := by
  by_cases same : key = added
  · subst key
    simp
  · simp [same]

theorem lookup_erase_eq (table : Table Key Value) (removed key : Key) :
    (table.erase removed).lookup key =
      if key = removed then none else table.lookup key := by
  by_cases same : key = removed
  · subst key
    simp
  · simp [same]

theorem lookup_of_erase {table : Table Key Value} {removed key : Key} {value : Value}
    (found : (table.erase removed).lookup key = some value) : table.lookup key = some value := by
  rw [lookup_erase_eq] at found
  split at found
  · cases found
  · exact found

theorem lookup_of_insert {table : Table Key Value} {added key : Key} {value other : Value}
    (found : (table.insert added value).lookup key = some other) (different : other ≠ value) :
    table.lookup key = some other := by
  rw [lookup_insert_eq] at found
  split at found
  · exact absurd (Option.some.inj found).symm different
  · exact found

def eraseAll (removed : List Key) (table : Table Key Value) : Table Key Value :=
  removed.foldl (fun table key => table.erase key) table

/-- The result does not depend on the order of the removals. -/
theorem lookup_eraseAll (removed : List Key) (table : Table Key Value) (key : Key) :
    (eraseAll removed table).lookup key =
      if key ∈ removed then none else table.lookup key := by
  unfold eraseAll
  induction removed generalizing table with
  | nil => simp
  | cons head rest ih =>
      rw [List.foldl_cons, ih, lookup_erase_eq]
      by_cases inRest : key ∈ rest
      · simp [inRest]
      · by_cases same : key = head <;> simp [inRest, same]

theorem mem_eraseAll {removed : List Key} {table : Table Key Value} {key : Key} :
    key ∈ eraseAll removed table ↔ key ∉ removed ∧ key ∈ table := by
  rw [← AList.lookup_isSome, ← AList.lookup_isSome, lookup_eraseAll]
  by_cases listed : key ∈ removed <;> simp [listed]

theorem entry_iff_lookup (table : Table Key Value) (key : Key) (value : Value) :
    (⟨key, value⟩ : Sigma fun _ : Key => Value) ∈ table.entries ↔
      table.lookup key = some value :=
  AList.mem_lookup_iff.symm

end PeatSapient.HashMap
