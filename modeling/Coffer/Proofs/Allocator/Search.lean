import Coffer.Proofs.Allocator
import Coffer.Proofs.SortedMap
/-!
# The search for a free index

One index after the other is looked at, from the receive counter on, until one is not reserved; past
the last index of all the search stays where it is. It ends just where an index from the counter on
is free, and then at the least of these: each turn leaves a reserved index behind for good, of which
there are finitely many. What is computed from the ascending reservations is where the search ends.
-/

namespace Coffer.IndexState

/-- The search from an index ends at `found` after a number of turns. -/
inductive Search (reserved : SortedMap UInt32 String) : (index : UInt32) → (turns : Nat) →
    (found : UInt32) → Prop
  | free {index : UInt32} (isFree : reserved.find? index = none) : Search reserved index 0 index
  | taken {index found : UInt32} {turns : Nat} {label : String}
      (isTaken : reserved.find? index = some label)
      (later : Search reserved (satAdd32 index 1) turns found) : Search reserved index
      (turns + 1) found

variable {reserved : SortedMap UInt32 String} {entries : List (UInt32 × String)}
  {index found other : UInt32} {turns : Nat} {label : String} {state : IndexState}

theorem toNat_next : (satAdd32 index 1).toNat = min (index.toNat + 1) 0xffffffff :=
  toNat_satAdd32 index 1

theorem le_next : index ≤ satAdd32 index 1 := by
  have bounded := index.toNat_lt
  rw [UInt32.le_iff_toNat_le, toNat_next]
  omega

theorem next_le {passed : UInt32} (reached : index ≤ passed) (differs : passed ≠ index) :
    satAdd32 index 1 ≤ passed := by
  have bounded := passed.toNat_lt
  have atLeast := UInt32.le_iff_toNat_le.mp reached
  have apart : passed.toNat ≠ index.toNat := fun same => differs (UInt32.toNat_inj.mp same)
  rw [UInt32.le_iff_toNat_le, toNat_next]
  omega

namespace IsFirst

/-- The least free index from after a reserved one on is the least from the reserved one on. -/
theorem of_next (first : IsFirst entries (satAdd32 index 1) found)
    (isTaken : (SortedMap.lookup index entries).isSome = true) : IsFirst entries index found where
  atLeast := UInt32.le_trans le_next first.atLeast
  isFree := first.isFree
  passes := by
    intro passed reached below
    by_cases own : passed = index
    · rw [own]
      exact isTaken
    · exact first.passes passed (next_le reached own) below

end IsFirst

theorem Search.isFirst (search : Search reserved index turns found) :
    IsFirst reserved.entries index found := by
  induction search with
  | free isFree => exact .of_free isFree
  | taken isTaken _ ih => exact ih.of_next (Option.isSome_of_mem isTaken)

/-- How many reserved indexes are left to be passed from an index on. -/
def ahead (reserved : SortedMap UInt32 String) (index : UInt32) : Nat :=
  reserved.entries.countP fun entry => index ≤ entry.1

/-- A reserved index that is passed is left behind for good, unless it is the last one of all. -/
theorem ahead_next_lt (isTaken : reserved.find? index = some label)
    (notLast : index.toNat < 0xffffffff) :
    ahead reserved (satAdd32 index 1) < ahead reserved index := by
  have further (key : UInt32) : (index ≤ key && satAdd32 index 1 ≤ key) =
      decide (satAdd32 index 1 ≤ key) := by
    rw [Bool.and_eq_right_iff_imp]
    simp only [decide_eq_true_eq]
    exact UInt32.le_trans le_next
  have behind : ¬ satAdd32 index 1 ≤ index := by
    rw [UInt32.le_iff_toNat_le, toNat_next]
    omega
  have passed : 0 < (reserved.entries.filter fun entry =>
      !decide (satAdd32 index 1 ≤ entry.1)).countP fun entry => index ≤ entry.1 := by
    rw [List.countP_pos_iff]
    refine ⟨(index, label), List.mem_filter.mpr ⟨SortedMap.find?_eq_some.mp isTaken, ?_⟩, ?_⟩
    · simpa using behind
    · simp
  have parts := List.countP_eq_countP_filter_add reserved.entries (fun entry =>
    decide (index ≤ entry.1)) fun entry => decide (satAdd32 index 1 ≤ entry.1)
  simp only [List.countP_filter, further] at parts passed
  rw [ahead, ahead, parts]
  omega

/-- Where an index is free the search ends, after no more turns than there are reserved indexes left
to be passed. -/
theorem exists_search (hasFree : ∃ free, index ≤ free ∧ reserved.find? free = none) :
    ∃ found, ∃ turns ≤ ahead reserved index, Search reserved index turns found := by
  induction left : ahead reserved index using Nat.strongRecOn generalizing index with
  | ind left ih =>
    subst left
    cases looked : reserved.find? index with
    | none => exact ⟨index, 0, Nat.zero_le _, .free looked⟩
    | some label =>
      obtain ⟨free, atLeast, isFree⟩ := hasFree
      have isOther : free ≠ index := by
        rintro rfl
        cases looked.symm.trans isFree
      -- The free index lies further on, so that the search is not stuck at the last index of all.
      have notLast : index.toNat < 0xffffffff := by
        have bounded := free.toNat_lt
        have apart : free.toNat ≠ index.toNat := fun same => isOther (UInt32.toNat_inj.mp same)
        have reached := UInt32.le_iff_toNat_le.mp atLeast
        omega
      have fewer := ahead_next_lt looked notLast
      obtain ⟨found, turns, atMost, later⟩ := ih _ fewer ⟨free, next_le atLeast isOther, isFree⟩ rfl
      exact ⟨found, turns + 1, by omega, .taken looked later⟩

theorem exists_search_iff :
    (∃ turns, Search reserved index turns found) ↔ IsFirst reserved.entries index found := by
  constructor
  · rintro ⟨turns, search⟩
    exact search.isFirst
  · intro first
    obtain ⟨other, turns, _, search⟩ := exists_search ⟨found, first.atLeast, first.isFree⟩
    rw [first.unique search.isFirst]
    exact ⟨turns, search⟩

/-- The search from the receive counter ends just where an index from there on is free. It ends at
the least such index, up to which all are reserved, and that is the one which is handed out; it is
reached after no more turns than there are reserved indexes from the counter on. -/
theorem search_finds_least_free (state : IndexState) :
    ((∃ found turns, Search state.reserved state.nextReceive turns found) ↔
        ∃ index, state.nextReceive ≤ index ∧ state.reserved.find? index = none) ∧
      ((∃ found, state.firstFree? = some found ∧ ∃ turns ≤ ahead state.reserved state.nextReceive,
          Search state.reserved state.nextReceive turns found) ↔
        ∃ index, state.nextReceive ≤ index ∧ state.reserved.find? index = none) ∧
      ∀ found,
        ((∃ turns, Search state.reserved state.nextReceive turns found) ↔
          state.nextReceive ≤ found ∧ state.reserved.find? found = none ∧
            ∀ passed, state.nextReceive ≤ passed → passed < found →
              (state.reserved.find? passed).isSome = true) ∧
        ((∃ turns, Search state.reserved state.nextReceive turns found) ↔
          state.firstFree? = some found) := by
  refine ⟨⟨?_, ?_⟩, ⟨?_, ?_⟩, fun found => ⟨?_, ?_⟩⟩
  · rintro ⟨found, turns, search⟩
    exact ⟨found, search.isFirst.atLeast, search.isFirst.isFree⟩
  · intro hasFree
    obtain ⟨found, turns, _, search⟩ := exists_search hasFree
    exact ⟨found, turns, search⟩
  · rintro ⟨found, _, turns, _, search⟩
    exact ⟨found, search.isFirst.atLeast, search.isFirst.isFree⟩
  · intro hasFree
    obtain ⟨found, turns, atMost, search⟩ := exists_search hasFree
    exact ⟨found, firstFree?_eq_some.mpr search.isFirst, turns, atMost, search⟩
  · rw [exists_search_iff]
    constructor
    · intro first
      exact ⟨first.atLeast, first.isFree, first.passes⟩
    · rintro ⟨atLeast, isFree, passes⟩
      exact ⟨atLeast, isFree, passes⟩
  · rw [exists_search_iff, firstFree?_eq_some]

/-- The last index of all is not followed by a free one. -/
example : (IndexState.mk 0xfffffffe 0
    ((SortedMap.empty.insert 0xfffffffe "rent").insert 0xffffffff "gifts")).firstFree? = none := by
  decide

end Coffer.IndexState
