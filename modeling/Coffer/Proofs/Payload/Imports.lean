import Coffer.Payload.Imports
/-!
# Entries of imported addresses

An entry takes the place of the first one of its address, or comes after all others. The other
entries stay where they are, and so do their keys.
-/

namespace Coffer.Payload

variable {entry existing other : ImportedAddress} {entries : List ImportedAddress}

theorem mem_putEntry (isIn : other ∈ putEntry entry entries) : other = entry ∨ other ∈ entries := by
  induction entries with
  | nil => exact .inl (List.mem_singleton.mp isIn)
  | cons first later ih =>
    rw [putEntry] at isIn
    split at isIn
    · rcases List.mem_cons.mp isIn with same | isLater
      · exact .inl same
      · exact .inr (List.mem_cons_of_mem _ isLater)
    · rcases List.mem_cons.mp isIn with same | isLater
      · exact .inr (same ▸ List.mem_cons_self)
      · exact (ih isLater).imp_right (List.mem_cons_of_mem _)

/-- An address leads to the new entry if it is that of the entry, and else to what it led to
before. -/
theorem find?_putEntry (entry : ImportedAddress) (entries : List ImportedAddress)
    (address : String) : (putEntry entry entries).find? (fun other => other.address = address) =
      if address = entry.address then
        some entry else entries.find? fun other => other.address = address := by
  induction entries with
  | nil =>
    by_cases asked : address = entry.address
    · simp [putEntry, asked]
    · have other : ¬ entry.address = address := fun same => asked same.symm
      simp [putEntry, asked, other]
  | cons first later ih =>
    rw [putEntry]
    by_cases own : first.address = entry.address
    · rw [if_pos own]
      by_cases asked : address = entry.address
      · simp [asked]
      · have other : ¬ entry.address = address := fun same => asked same.symm
        simp [own, asked, other]
    · rw [if_neg own]
      by_cases found : first.address = address
      · have asked : ¬ address = entry.address := fun same => own (found.trans same)
        simp [found, asked]
      · simp [found, ih]

theorem putEntry_of_new
    (isNew : entries.find? (fun other => other.address = entry.address) = none) :
    putEntry entry entries = entries ++ [entry] := by
  induction entries with
  | nil => rfl
  | cons first later ih =>
    by_cases own : first.address = entry.address
    · simp [own] at isNew
    · rw [List.find?_cons_of_neg (by simpa using own)] at isNew
      rw [putEntry, if_neg own, ih isNew, List.cons_append]

theorem addresses_putEntry_of_there
    (isThere : entries.find? (fun other => other.address = entry.address) = some existing) :
    (putEntry entry entries).map ImportedAddress.address = entries.map ImportedAddress.address := by
  induction entries with
  | nil => cases isThere
  | cons first later ih =>
    rw [putEntry]
    split
    · rename_i own
      simp [own]
    · rename_i differs
      rw [List.find?_cons_of_neg (by simpa using differs)] at isThere
      rw [List.map_cons, List.map_cons, ih isThere]

theorem addresses_prefix_putEntry (entry : ImportedAddress) (entries : List ImportedAddress) :
    entries.map ImportedAddress.address <+: (putEntry entry entries).map
      ImportedAddress.address := by
  cases found : entries.find? fun other => other.address = entry.address with
  | none =>
    rw [putEntry_of_new found, List.map_append]
    exact List.prefix_append ..
  | some existing => exact addresses_putEntry_of_there found ▸ List.prefix_refl _

theorem nodup_addresses_putEntry (entry : ImportedAddress)
    (distinct : (entries.map ImportedAddress.address).Nodup) :
    ((putEntry entry entries).map ImportedAddress.address).Nodup := by
  cases found : entries.find? fun other => other.address = entry.address with
  | none =>
    have isNew : entry.address ∉ entries.map ImportedAddress.address := by
      simpa [List.find?_eq_none] using found
    rw [putEntry_of_new found, List.map_append, List.nodup_append]
    refine ⟨distinct, by simp, fun address isIn other isOther same => ?_⟩
    rw [List.map_singleton, List.mem_singleton] at isOther
    exact isNew (isOther ▸ same ▸ isIn)
  | some existing =>
    rw [addresses_putEntry_of_there found]
    exact distinct

theorem find?_of_mem_distinct (distinct : (entries.map ImportedAddress.address).Nodup)
    (isIn : entry ∈ entries) :
    entries.find? (fun other => other.address = entry.address) = some entry := by
  induction entries with
  | nil => cases isIn
  | cons first later ih =>
    rw [List.map_cons, List.nodup_cons] at distinct
    rcases List.mem_cons.mp isIn with rfl | isLater
    · exact List.find?_cons_of_pos (by simp)
    · have differs : ¬ first.address = entry.address := fun same =>
        distinct.1 (same ▸ List.mem_map_of_mem isLater)
      rw [List.find?_cons_of_neg (by simpa using differs)]
      exact ih distinct.2 isLater

theorem keys_putEntry_of_there
    (isThere : entries.find? (fun other => other.address = entry.address) = some existing)
    (sameKey : entry.key = existing.key) :
    (putEntry entry entries).filterMap ImportedAddress.key =
      entries.filterMap ImportedAddress.key := by
  induction entries with
  | nil => cases isThere
  | cons first later ih =>
    rw [putEntry]
    split
    · rename_i own
      rw [List.find?_cons_of_pos (by simpa using own)] at isThere
      cases isThere
      simp [List.filterMap_cons, sameKey]
    · rename_i differs
      rw [List.find?_cons_of_neg (by simpa using differs)] at isThere
      simp only [List.filterMap_cons, ih isThere]

/-- An entry that takes the place of none with a key adds its key somewhere among the others. -/
theorem keys_putEntry_of_noKey
    (noKey : ∀ existing, entries.find? (fun other => other.address = entry.address) =
      some existing → existing.key = none) :
    ∃ front back, entries.filterMap ImportedAddress.key = front ++ back ∧
      (putEntry entry entries).filterMap ImportedAddress.key = front ++
        entry.key.toList ++ back := by
  induction entries with
  | nil => exact ⟨[], [], rfl, by cases hasKey : entry.key <;> simp [putEntry, hasKey]⟩
  | cons first later ih =>
    rw [putEntry]
    by_cases own : first.address = entry.address
    · have none := noKey first (List.find?_cons_of_pos (by simpa using own))
      refine ⟨[], later.filterMap ImportedAddress.key, by simp [none], ?_⟩
      cases hasKey : entry.key <;> simp [own, hasKey]
    · have stillNone : ∀ existing, later.find? (fun other => other.address = entry.address) =
            some existing →
          existing.key = none := by
        intro existing found
        apply noKey
        rw [List.find?_cons_of_neg (by simpa using own)]
        exact found
      obtain ⟨front, back, keys, put⟩ := ih stillNone
      refine ⟨first.key.toList ++ front, back, ?_, ?_⟩
      · cases hasKey : first.key <;> simp [hasKey, keys]
      · cases hasKey : first.key <;> simp [own, hasKey, put]

end Coffer.Payload
