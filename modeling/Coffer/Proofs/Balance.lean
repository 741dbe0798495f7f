import Coffer.Balance
import Mathlib
/-!
# Sums of balances

A sum that stops at the largest word wherever it would pass it is the exact sum, cut off once at the
end, because nothing is ever taken away again. With what is spent this is not so: an amount that was
cut off is lost for good, and only as long as nothing is cut off does the order of the amounts not
matter.
-/

namespace Coffer

/-- The largest 64-bit number, at which sums stop. -/
def largestWord : Nat := 0xffffffffffffffff

/-- A number, or the largest word where it is greater. -/
def capped (value : Nat) : UInt64 := UInt64.ofNat (min value largestWord)

theorem toNat_capped (value : Nat) : (capped value).toNat = min value largestWord := by
  simp only [capped, largestWord, UInt64.toNat_ofNat']
  omega

theorem capped_toNat (word : UInt64) : capped word.toNat = word := by
  have inRange := word.toNat_lt
  apply UInt64.toNat_inj.mp
  rw [toNat_capped, largestWord]
  omega

theorem satAdd64_capped (left right : Nat) :
    satAdd64 (capped left) (capped right) = capped (left + right) := by
  apply UInt64.toNat_inj.mp
  rw [toNat_satAdd64, toNat_capped, toNat_capped, toNat_capped, largestWord]
  omega

theorem foldl_satAdd64 {α : Type} {items : List α} {value : α → UInt64} {amount : α → Nat}
    (each : ∀ item ∈ items, value item = capped (amount item)) (start : Nat) :
    items.foldl (fun total item => satAdd64 total (value item)) (capped start) =
      capped (start + (items.map amount).sum) := by
  induction items generalizing start with
  | nil => rfl
  | cons item others ih =>
    rw [List.foldl_cons, each item List.mem_cons_self, satAdd64_capped,
      ih fun other isIn => each other (List.mem_cons_of_mem item isIn), List.map_cons,
      List.sum_cons, Nat.add_assoc]

namespace Balance

/-- The fieldwise exact sums of balances, each cut off at the largest word. -/
def sum (balances : List Balance) : Balance :=
  ⟨capped (balances.map fun balance => balance.spendable.toNat).sum,
    capped (balances.map fun balance => balance.received.toNat).sum,
    capped (balances.map fun balance => balance.transactions.toNat).sum⟩

theorem merge_sum (before : List Balance) (balance : Balance) :
    (sum before).merge balance = sum (before ++ [balance]) := by
  have field (total : Nat) (word : UInt64) : satAdd64 (capped total) word =
      capped (total + word.toNat) := by
    rw [← satAdd64_capped, capped_toNat]
  simp only [sum, merge, field, List.map_append, List.map_cons, List.map_nil, List.sum_append,
    List.sum_singleton]

theorem foldl_merge_sum (before balances : List Balance) :
    balances.foldl merge (sum before) = sum (before ++ balances) := by
  induction balances generalizing before with
  | nil => rw [List.foldl_nil, List.append_nil]
  | cons balance others ih =>
    rw [List.foldl_cons, merge_sum, ih, List.append_assoc, List.singleton_append]

theorem foldl_merge (balances : List Balance) : balances.foldl merge zero = sum balances :=
  foldl_merge_sum [] balances

theorem toNat_clamp (value : Int) : (clamp value).toNat = min value.toNat largestWord := by
  have cut : clamp value = capped value.toNat := rfl
  rw [cut, toNat_capped]

theorem spendable_adjust (balance : Balance) (amount : Int) :
    ((balance.adjust amount).spendable.toNat : Int) =
      max 0 (min (balance.spendable.toNat + amount) largestWord) := by
  rw [adjust, toNat_clamp, largestWord]
  omega

theorem received_adjust (balance : Balance) (amount : Int) :
    (balance.adjust amount).received.toNat = min (balance.received.toNat + amount.toNat)
      largestWord := by
  rw [adjust, toNat_clamp, largestWord]
  omega

/-- No amount of a sequence takes what can be spent out of its range. -/
def Bears (balance : Balance) (amounts : List Int) : Prop :=
  ∀ count, 0 ≤ balance.spendable.toNat + (amounts.take count).sum ∧
    balance.spendable.toNat + (amounts.take count).sum ≤ largestWord

theorem spendable_of_bears {balance : Balance} {amounts : List Int}
    (bears : balance.Bears amounts) :
    ((amounts.foldl adjust balance).spendable.toNat : Int) = balance.spendable.toNat +
      amounts.sum := by
  induction amounts generalizing balance with
  | nil => simp
  | cons amount later ih =>
    have first : ((balance.adjust amount).spendable.toNat : Int) =
        balance.spendable.toNat + amount := by
      have inRange := bears 1
      rw [List.take_succ_cons, List.take_zero, List.sum_singleton] at inRange
      rw [spendable_adjust]
      omega
    have bearsLater : (balance.adjust amount).Bears later := by
      intro count
      have inRange := bears (count + 1)
      rw [List.take_succ_cons, List.sum_cons] at inRange
      rw [first]
      omega
    rw [List.foldl_cons, ih bearsLater, first, List.sum_cons, Int.add_assoc]

end Balance

end Coffer
