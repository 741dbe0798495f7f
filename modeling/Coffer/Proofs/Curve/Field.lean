import Coffer.Proofs.Curve.Primality
/-!
# The field

The remainders modulo the size of the field are its elements, and what is computed with them is what
the field has: differences, powers, and the inverse by Fermat's little theorem.
-/

namespace Coffer.Secp256k1

abbrev Element : Type := ZMod fieldSize

theorem fieldSize_pos : 0 < fieldSize := fieldSize_prime.pos

theorem eq_of_cast_eq {x y : Nat} (xReduced : x < fieldSize) (yReduced : y < fieldSize)
    (same : (x : Element) = y) : x = y := by
  rwa [ZMod.natCast_eq_natCast_iff', Nat.mod_eq_of_lt xReduced, Nat.mod_eq_of_lt yReduced] at same

theorem eq_val {value : Nat} {x : Element} (reduced : value < fieldSize)
    (same : (value : Element) = x) : value = x.val :=
  eq_of_cast_eq reduced (ZMod.val_lt x) (same.trans (ZMod.natCast_zmod_val x).symm)

theorem cast_eq_zero_iff {x : Nat} (reduced : x < fieldSize) : (x : Element) = 0 ↔ x = 0 := by
  constructor
  · exact fun zero => eq_of_cast_eq reduced fieldSize_pos (zero.trans Nat.cast_zero.symm)
  · exact fun zero => zero ▸ Nat.cast_zero

theorem ne_zero_of_cast {x : Nat} (nonzero : (x : Element) ≠ 0) : x ≠ 0 :=
  fun zero => nonzero (zero ▸ Nat.cast_zero)

theorem mod_lt (x : Nat) : x % fieldSize < fieldSize := Nat.mod_lt x fieldSize_pos

theorem sub_lt (x y : Nat) : sub x y < fieldSize := mod_lt _

@[simp] theorem cast_sub (x y : Nat) : (sub x y : Element) = x - y := by
  have small : y % fieldSize ≤ fieldSize := (mod_lt y).le
  rw [sub, ZMod.natCast_mod, Nat.cast_add, Nat.cast_sub small, ZMod.natCast_self,
    ZMod.natCast_mod, zero_sub, sub_eq_add_neg]

@[simp] theorem cast_power (base exponent : Nat) :
    (power base exponent : Element) = (base : Element) ^ exponent := by
  rw [power_eq_powMod, Primality.powMod_cast]

theorem power_lt (base exponent : Nat) : power base exponent < fieldSize := by
  rw [power_eq_powMod]
  exact Primality.powMod_lt fieldSize_prime.one_lt base exponent

@[simp] theorem cast_inverse (x : Nat) : (inverse x : Element) = (x : Element)⁻¹ := by
  rw [inverse, cast_power]
  by_cases zero : (x : Element) = 0
  · rw [zero, inv_zero, zero_pow (by decide)]
  · refine eq_inv_of_mul_eq_one_left ?_
    rw [← pow_succ]
    exact ZMod.pow_card_sub_one_eq_one zero

end Coffer.Secp256k1
