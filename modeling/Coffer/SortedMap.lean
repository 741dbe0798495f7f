/-!
# Sorted maps

A finite map as the list of its entries in ascending order of their keys, so that equal maps are
equal lists and what is written from one depends on nothing else.
-/

namespace Coffer

/-- The order of keys is strict and any two different keys are comparable. -/
class SortedKey (κ : Type) [LT κ] : Prop where
  trans : ∀ {a b c : κ}, a < b → b < c → a < c
  irrefl : ∀ a : κ, ¬ a < a
  connected : ∀ {a b : κ}, ¬ a < b → a ≠ b → b < a

instance : SortedKey UInt32 where
  trans := UInt32.lt_trans
  irrefl := UInt32.lt_irrefl
  connected notLess different :=
    UInt32.lt_of_le_of_ne (UInt32.not_lt.mp notLess) (Ne.symm different)

instance : SortedKey String where
  trans := String.lt_trans
  irrefl := String.lt_irrefl
  connected notLess different := by
    rcases Std.le_iff_lt_or_eq.mp (String.not_lt.mp notLess) with less | equal
    · exact less
    · exact absurd equal.symm different

/-- A map from keys to values, its entries in ascending order of their keys. -/
structure SortedMap (κ α : Type) [LT κ] where
  entries : List (κ × α)
  sorted : entries.Pairwise (·.1 < ·.1)

namespace SortedMap

variable {κ α : Type} [LT κ]

@[ext] theorem ext {left right : SortedMap κ α} (same : left.entries = right.entries) :
    left = right := by
  cases left; cases right; cases same; rfl

instance [DecidableEq κ] [DecidableEq α] : DecidableEq (SortedMap κ α) := fun left right =>
  if same : left.entries = right.entries then isTrue (ext same)
  else isFalse fun equal => same (congrArg entries equal)

def empty : SortedMap κ α := ⟨[], .nil⟩

instance : Inhabited (SortedMap κ α) := ⟨empty⟩

def isEmpty (map : SortedMap κ α) : Bool := map.entries.isEmpty

variable [DecidableEq κ]

def lookup (key : κ) : List (κ × α) → Option α
  | [] => none
  | (other, value) :: rest => if key = other then some value else lookup key rest

def find? (map : SortedMap κ α) (key : κ) : Option α := lookup key map.entries

@[simp] theorem find?_empty (key : κ) : (empty : SortedMap κ α).find? key = none := rfl

variable [DecidableLT κ]

/-- Entries with a value put in for a key, in place of the one that was there. -/
def insertEntry (key : κ) (value : α) : List (κ × α) → List (κ × α)
  | [] => [(key, value)]
  | (other, old) :: rest =>
    if key < other then (key, value) :: (other, old) :: rest
    else if key = other then (key, value) :: rest
    else (other, old) :: insertEntry key value rest

theorem mem_insertEntry {key : κ} {value : α} {entry : κ × α} {entries : List (κ × α)}
    (isIn : entry ∈ insertEntry key value entries) : entry = (key, value) ∨ entry ∈ entries := by
  induction entries with
  | nil => simpa [insertEntry] using isIn
  | cons first rest ih =>
    obtain ⟨other, old⟩ := first
    simp only [insertEntry] at isIn
    split at isIn
    · simpa using isIn
    · split at isIn
      · rcases List.mem_cons.mp isIn with same | later
        · exact .inl same
        · exact .inr (List.mem_cons_of_mem _ later)
      · rcases List.mem_cons.mp isIn with same | later
        · exact .inr (same ▸ List.mem_cons_self)
        · exact (ih later).imp_right (List.mem_cons_of_mem _)

theorem sorted_insertEntry [SortedKey κ] (key : κ) (value : α) {entries : List (κ × α)}
    (sorted : entries.Pairwise (·.1 < ·.1)) :
    (insertEntry key value entries).Pairwise (·.1 < ·.1) := by
  induction entries with
  | nil => simp [insertEntry]
  | cons first rest ih =>
    obtain ⟨other, old⟩ := first
    have ⟨above, restSorted⟩ := List.pairwise_cons.mp sorted
    simp only [insertEntry]
    split
    · rename_i less
      refine List.pairwise_cons.mpr ⟨fun entry isIn => ?_, sorted⟩
      rcases List.mem_cons.mp isIn with same | later
      · exact same ▸ less
      · exact SortedKey.trans less (above entry later)
    · split
      · rename_i _ same
        subst same
        exact List.pairwise_cons.mpr ⟨above, restSorted⟩
      · rename_i notLess different
        refine List.pairwise_cons.mpr ⟨fun entry isIn => ?_, ih restSorted⟩
        rcases mem_insertEntry isIn with same | later
        · exact same ▸ SortedKey.connected notLess different
        · exact above entry later

/-- The map with a value put in for a key, in place of the one that was there. -/
def insert [SortedKey κ] (map : SortedMap κ α) (key : κ) (value : α) : SortedMap κ α :=
  ⟨insertEntry key value map.entries, sorted_insertEntry key value map.sorted⟩

def erase (map : SortedMap κ α) (key : κ) : SortedMap κ α :=
  ⟨map.entries.filter fun entry => ¬ entry.1 = key, map.sorted.sublist List.filter_sublist⟩

/-- The map of a list of entries, of which the last one for a key stays. -/
def ofList [SortedKey κ] (entries : List (κ × α)) : SortedMap κ α :=
  entries.foldl (fun map entry => map.insert entry.1 entry.2) empty

def values (map : SortedMap κ α) : List α := map.entries.map Prod.snd

theorem lookup_insertEntry (key wanted : κ) (value : α) (entries : List (κ × α)) :
    lookup wanted (insertEntry key value entries) = if wanted = key then
      some value else lookup wanted entries := by
  induction entries with
  | nil => simp [insertEntry, lookup]
  | cons first rest ih =>
    obtain ⟨other, old⟩ := first
    simp only [insertEntry]
    split
    · simp [lookup]
    · split
      · rename_i _ same
        subst same
        simp only [lookup]
        split <;> rfl
      · rename_i _ different
        simp only [lookup, ih]
        by_cases same : wanted = other
        · subst same
          simp [Ne.symm different]
        · simp [same]

theorem find?_insert [SortedKey κ] (map : SortedMap κ α) (key wanted : κ) (value : α) :
    (map.insert key value).find? wanted = if wanted = key then some value else map.find? wanted :=
  lookup_insertEntry key wanted value map.entries

end SortedMap

end Coffer
