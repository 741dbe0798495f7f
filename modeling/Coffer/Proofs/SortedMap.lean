import Coffer.SortedMap
/-!
# Sorted maps and their entries

A key has the value of its one entry, and a map is what its own entries build up, because each of
them comes after all that are there. Entries that are put into a map take the place of older ones
with their keys and leave the others alone.
-/

namespace Coffer.SortedMap

variable {κ α : Type} [LT κ] [DecidableEq κ] [SortedKey κ]

theorem lookup_eq_some {key : κ} {value : α} {entries : List (κ × α)}
    (sorted : entries.Pairwise (·.1 < ·.1)) :
    lookup key entries = some value ↔ (key, value) ∈ entries := by
  induction entries with
  | nil => exact iff_of_false nofun nofun
  | cons first others ih =>
    obtain ⟨other, old⟩ := first
    have ⟨above, othersSorted⟩ := List.pairwise_cons.mp sorted
    rw [lookup, List.mem_cons, Prod.mk.injEq]
    by_cases same : key = other
    · subst same
      -- A later entry has a greater key.
      have isFirst : (key, value) ∉ others := fun isIn => SortedKey.irrefl key (above _ isIn)
      simp [isFirst, eq_comm]
    · simp [same, ih othersSorted]

theorem find?_eq_some {map : SortedMap κ α} {key : κ} {value : α} :
    map.find? key = some value ↔ (key, value) ∈ map.entries := lookup_eq_some map.sorted

variable [DecidableLT κ]

theorem insertEntry_of_above {key : κ} (value : α) {entries : List (κ × α)}
    (above : ∀ entry ∈ entries, entry.1 < key) :
    insertEntry key value entries = entries ++ [(key, value)] := by
  induction entries with
  | nil => rfl
  | cons first others ih =>
    obtain ⟨other, old⟩ := first
    have less : other < key := above (other, old) List.mem_cons_self
    have notLess : ¬ key < other :=
      fun greater => SortedKey.irrefl key (SortedKey.trans greater less)
    have different : key ≠ other := fun same => SortedKey.irrefl key (same ▸ less)
    rw [insertEntry, if_neg notLess, if_neg different,
      ih fun entry isIn => above entry (List.mem_cons_of_mem _ isIn)]
    rfl

theorem entries_foldl_insert (map : SortedMap κ α) (entries : List (κ × α))
    (sorted : (map.entries ++ entries).Pairwise (·.1 < ·.1)) :
    (entries.foldl (fun map entry => map.insert entry.1 entry.2) map).entries =
      map.entries ++ entries := by
  induction entries generalizing map with
  | nil => simp
  | cons first others ih =>
    have above : ∀ entry ∈ map.entries, entry.1 < first.1 := fun entry isIn =>
      (List.pairwise_append.mp sorted).2.2 entry isIn first List.mem_cons_self
    have inserted : (map.insert first.1 first.2).entries = map.entries ++ [first] :=
      insertEntry_of_above first.2 above
    rw [List.foldl_cons, ih]
    · rw [inserted, List.append_assoc]
      rfl
    · rw [inserted, List.append_assoc]
      exact sorted

/-- Where every key is put in with a value of its own, it has that value afterwards. -/
theorem find?_foldl_insert_keys (map : SortedMap κ α) (value : κ → α) (keys : List κ) (wanted : κ) :
    ((keys.map fun key => (key, value key)).foldl (fun map entry => map.insert entry.1 entry.2)
      map).find? wanted = if wanted ∈ keys then some (value wanted) else map.find? wanted := by
  induction keys generalizing map with
  | nil => rfl
  | cons key others ih =>
    rw [List.map_cons, List.foldl_cons, ih, find?_insert]
    by_cases isKey : wanted = key
    · subst isKey
      simp
    · simp [isKey]

/-- The entries of a map that are put into another take the place of those that were there. -/
theorem find?_foldl_insert (map : SortedMap κ α) {entries : List (κ × α)}
    (sorted : entries.Pairwise (·.1 < ·.1)) (wanted : κ) :
    (entries.foldl (fun map entry => map.insert entry.1 entry.2) map).find? wanted =
      (lookup wanted entries).or (map.find? wanted) := by
  induction entries generalizing map with
  | nil => rfl
  | cons first others ih =>
    obtain ⟨key, value⟩ := first
    have ⟨above, othersSorted⟩ := List.pairwise_cons.mp sorted
    rw [List.foldl_cons, ih _ othersSorted, find?_insert, lookup]
    by_cases isKey : wanted = key
    · subst isKey
      -- No later entry has the same key, so that the first one stays.
      have noOther : lookup wanted others = none := by
        rw [Option.eq_none_iff_forall_ne_some]
        intro other found
        exact SortedKey.irrefl wanted (above _ ((lookup_eq_some othersSorted).mp found))
      simp [noOther]
    · simp [isKey]

theorem ofList_entries (map : SortedMap κ α) : ofList map.entries = map := by
  apply ext
  have built := entries_foldl_insert empty map.entries map.sorted
  exact built

end Coffer.SortedMap
