import Coffer.Bytes.Hex
import Coffer.Proofs.Bytes
/-!
# Hexadecimal text that is written can be read

A byte is written as its two halves, each of which is below 16 and stands for itself. Digits are
ASCII, so they survive being made a text.
-/

namespace Coffer.Hex

open Bytes (IsAscii)

theorem value?_digit {value : UInt8} (small : value < 16) : value? (digit value) = some value := by
  apply Bytes.of_each_below value small
  decide

theorem digit_ascii {value : UInt8} (small : value < 16) : digit value < 0x80 := by
  apply Bytes.of_each_below value small
  decide

theorem high_lt (byte : UInt8) : byte / 16 < 16 := by
  have := byte.toNat_lt
  simp only [UInt8.lt_iff_toNat_lt, UInt8.toNat_div, UInt8.reduceToNat]
  omega

theorem low_lt (byte : UInt8) : byte % 16 < 16 := by
  simp only [UInt8.lt_iff_toNat_lt, UInt8.toNat_mod, UInt8.reduceToNat]
  omega

theorem high_low (byte : UInt8) : 16 * (byte / 16) + byte % 16 = byte := by
  have := byte.toNat_lt
  apply UInt8.toNat_inj.mp
  simp only [UInt8.toNat_add, UInt8.toNat_mul, UInt8.toNat_div, UInt8.toNat_mod, UInt8.reduceToNat]
  omega

theorem isAscii_digits (bytes : Bytes) : IsAscii (digits bytes) :=
  .flatMap fun byte _ => .cons (digit_ascii (high_lt byte))
    (.cons (digit_ascii (low_lt byte)) Bytes.isAscii_nil)

theorem ofText_encode (bytes : Bytes) : Bytes.ofText (encode bytes) = digits bytes :=
  Bytes.ofText_asciiText (isAscii_digits bytes)

theorem digits_cons (byte : UInt8) (later : Bytes) :
    digits (byte :: later) = digit (byte / 16) :: digit (byte % 16) :: digits later := rfl

theorem length_digits (bytes : Bytes) : (digits bytes).length = 2 * bytes.length := by
  induction bytes with
  | nil => rfl
  | cons byte later ih =>
    rw [digits_cons, List.length_cons, List.length_cons, ih, List.length_cons]; omega

theorem decodeFrom_digits (position : Nat) (bytes : Bytes) :
    decodeFrom position (digits bytes) = .ok bytes := by
  induction bytes generalizing position with
  | nil => rfl
  | cons byte later ih =>
    rw [digits_cons, decodeFrom, value?_digit (high_lt byte), value?_digit (low_lt byte)]
    simp only [ih, high_low]

theorem decode_encode (bytes : Bytes) : decode (encode bytes) = .ok bytes := by
  have even : ¬ (digits bytes).length % 2 = 1 := by
    rw [length_digits]
    omega
  rw [decode, ofText_encode]
  simp only [if_neg even, decodeFrom_digits]

end Coffer.Hex
