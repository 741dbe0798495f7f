import Coffer.Proofs.Bytes.Number
import Coffer.Text.Base58
/-!
# Base 58 is read back

The digits of a number say which number it is, and the zero bytes in front, which its digits do not
tell, are spelled on their own. So every byte string is read back from its text, and with its
checksum from the text that has one.
-/

namespace Coffer.Base58

theorem digits_eq (base value : Nat) (large : 1 < base) :
    digits base value = Nat.digits base value := by
  induction value using Nat.strongRecOn with
  | ind value ih =>
    rw [digits]
    split
    case isTrue small => simp [show value = 0 by omega]
    case isFalse small =>
      rw [Nat.digits_def' large (by omega), ih (value / base) (Nat.div_lt_self (by omega) large)]

theorem ofDigits_eq (base : Nat) (values : List Nat) :
    ofDigits base values = Nat.ofDigits base values :=
  (Nat.ofDigits_eq_foldr base values).symm

theorem head?_reverse_digits {base : Nat} (value : Nat) (large : 1 < base) :
    (digits base value).reverse.head? ≠ some 0 := by
  rw [digits_eq base value large, List.head?_reverse]
  by_cases zero : value = 0
  · simp [zero]
  · have nonempty := Nat.digits_ne_nil_iff_ne_zero (b := base).mpr zero
    rw [List.getLast?_eq_some_getLast nonempty]
    simpa using Nat.getLast_digit_ne_zero base zero

theorem idxOf?_digitChar {value : Nat} (small : value < 58) :
    alphabet.idxOf? (digitChar value) = some value := by
  have each : ∀ value < 58, alphabet.idxOf? (digitChar value) = some value := by decide +kernel
  exact each value small

theorem mapM_digitChar {values : List Nat} (small : ∀ value ∈ values, value < 58) :
    ((values.map digitChar).mapM fun c => alphabet.idxOf? c) = some values := by
  induction values with
  | nil => rfl
  | cons value later ih =>
    obtain ⟨first, others⟩ := List.forall_mem_cons.mp small
    simp [idxOf?_digitChar first, ih others]

theorem takeWhile_zeros {α : Type} [BEq α] [LawfulBEq α] {zero : α} {later : List α} (count : Nat)
    (nonzero : later.head? ≠ some zero) :
    (List.replicate count zero ++ later).takeWhile (· == zero) = List.replicate count zero := by
  rw [List.takeWhile_append_of_pos (by simp)]
  cases later with
  | nil => simp
  | cons first others => simp_all

theorem eq_zeros_append (bytes : Bytes) :
    ∃ (count : Nat) (rest : Bytes), bytes = List.replicate count 0 ++ rest ∧
      rest.head? ≠ some 0 := by
  induction bytes with
  | nil => exact ⟨0, [], rfl, by simp⟩
  | cons first later ih =>
    by_cases zero : first = 0
    · obtain ⟨count, rest, split, nonzero⟩ := ih
      exact ⟨count + 1, rest, by rw [split, zero, List.replicate_succ, List.cons_append], nonzero⟩
    · exact ⟨0, first :: later, rfl, by simpa using zero⟩

def values (count : Nat) (rest : Bytes) : List Nat :=
  List.replicate count 0 ++ (digits 58 rest.toNat).reverse

theorem values_lt {count : Nat} {rest : Bytes} : ∀ value ∈ values count rest, value < 58 := by
  intro value isIn
  rcases List.mem_append.mp isIn with inZeros | inDigits
  · simp [List.eq_of_mem_replicate inZeros]
  · rw [List.mem_reverse, digits_eq 58 _ (by decide)] at inDigits
    exact Nat.digits_lt_base (by decide) inDigits

theorem ofDigits_values (count : Nat) (rest : Bytes) :
    ofDigits 58 (values count rest).reverse = rest.toNat := by
  rw [values, List.reverse_append, List.reverse_reverse, List.reverse_replicate, ofDigits_eq,
    Nat.ofDigits_append_replicate_zero, digits_eq 58 _ (by decide), Nat.ofDigits_digits]

theorem encode_eq {rest : Bytes} (count : Nat) (nonzero : rest.head? ≠ some 0) :
    encode (List.replicate count 0 ++ rest) =
      String.ofList ((values count rest).map digitChar) := by
  have zero : digitChar 0 = '1' := rfl
  rw [encode, takeWhile_zeros count nonzero, Bytes.toNat_replicate_append,
    List.length_replicate, values, List.map_append, List.map_replicate, zero]

/-- Every byte string is read back from its text. -/
@[simp] theorem decode?_encode (bytes : Bytes) : decode? (encode bytes) = some bytes := by
  obtain ⟨count, rest, rfl, nonzero⟩ := eq_zeros_append bytes
  have zeros : (values count rest).takeWhile (· == 0) = List.replicate count 0 :=
    takeWhile_zeros count (head?_reverse_digits _ (by decide))
  have later : (digits 256 rest.toNat).reverse.map UInt8.ofNat = rest := by
    rw [digits_eq 256 _ (by decide), Bytes.digits_toNat nonzero]
  rw [decode?, encode_eq count nonzero, String.toList_ofList, mapM_digitChar values_lt]
  simp only [Option.bind_eq_bind, Option.bind_some, Option.pure_def, zeros, ofDigits_values, later,
    List.length_replicate]

/-- Every byte string is read back from its text with a checksum. -/
@[simp] theorem decodeChecked?_encodeChecked (bytes : Bytes) :
    decodeChecked? (encodeChecked bytes) = some bytes := by
  have guarded : (guardOf bytes).length = 4 := by simp [guardOf]
  simp [decodeChecked?, encodeChecked, guarded]

end Coffer.Base58
