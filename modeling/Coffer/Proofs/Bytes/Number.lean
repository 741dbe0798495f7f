import Coffer.Bytes
import Mathlib.Data.Nat.Digits.Lemmas
/-!
# Numbers as byte strings

The number of a byte string is the one whose digits in base 256 are the bytes, so a number that fits
is read back from as many bytes as one likes to write it in, and zero bytes in front of it do not
matter.
-/

namespace Coffer.Bytes

theorem toNat_eq_ofDigits (bytes : Bytes) :
    toNat bytes = Nat.ofDigits 256 (bytes.map UInt8.toNat).reverse := by
  rw [toNat, Nat.ofDigits_eq_foldr, List.foldr_reverse, List.foldl_map]
  congr 1
  funext value byte
  exact Nat.add_comm _ _

theorem toNat_append (left right : Bytes) :
    toNat (left ++ right) = toNat left * 256 ^ right.length + toNat right := by
  simp only [toNat_eq_ofDigits, List.map_append, List.reverse_append, Nat.ofDigits_append]
  simp [Nat.mul_comm, Nat.add_comm]

theorem toNat_cons (byte : UInt8) (later : Bytes) :
    toNat (byte :: later) = byte.toNat * 256 ^ later.length + toNat later := by
  rw [← List.singleton_append, toNat_append]
  simp [toNat]

theorem toNat_lt (bytes : Bytes) : toNat bytes < 256 ^ bytes.length := by
  have bound := Nat.ofDigits_lt_base_pow_length (b := 256)
    (l := (bytes.map UInt8.toNat).reverse) (by decide)
    (by simpa using fun byte _ => byte.toNat_lt)
  simpa [toNat_eq_ofDigits] using bound

@[simp] theorem toNat_replicate_append (count : Nat) (bytes : Bytes) :
    toNat (List.replicate count 0 ++ bytes) = toNat bytes := by
  rw [toNat_append, toNat_eq_ofDigits]
  simp

theorem toNat_ofNat_mod (width value : Nat) : toNat (ofNat width value) = value % 256 ^ width := by
  induction width with
  | zero => simp [ofNat, toNat, Nat.mod_one]
  | succ width ih =>
    have first : (UInt8.ofNat (value >>> (8 * width))).toNat = value / 256 ^ width % 256 := by
      rw [UInt8.toNat_ofNat', Nat.shiftRight_eq_div_pow, Nat.pow_mul]
    rw [ofNat, toNat_cons, first, ih, length_ofNat, Nat.pow_succ, Nat.mod_mul,
      Nat.mul_comm, Nat.add_comm]

theorem toNat_ofNat {width value : Nat} (fits : value < 256 ^ width) :
    toNat (ofNat width value) = value := by
  rw [toNat_ofNat_mod, Nat.mod_eq_of_lt fits]

theorem digits_toNat {bytes : Bytes} (nonzero : bytes.head? ≠ some 0) :
    ((Nat.digits 256 (toNat bytes)).reverse.map UInt8.ofNat) = bytes := by
  have canonical : Nat.digits 256 (toNat bytes) = (bytes.map UInt8.toNat).reverse := by
    rw [toNat_eq_ofDigits]
    refine Nat.digits_ofDigits 256 (by decide) _ (by simpa using fun byte _ => byte.toNat_lt)
      fun nonempty => ?_
    cases bytes with
    | nil => exact absurd rfl nonempty
    | cons first later => simpa [← UInt8.toNat_inj] using nonzero
  rw [canonical, List.reverse_reverse, List.map_map]
  exact (List.map_congr_left fun byte _ => UInt8.ofNat_toNat).trans bytes.map_id

end Coffer.Bytes
