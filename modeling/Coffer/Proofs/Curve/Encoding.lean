import Coffer.Proofs.Bytes.Number
import Coffer.Proofs.Curve.Multiples
/-!
# The short encoding of a point

The size of the field leaves the remainder three modulo four, so that a power of a square is one of
its roots, and the parity tells which of the two it is. So every point but the one at infinity is
read back from its 33 bytes.
-/

namespace Coffer.Secp256k1

/-- The root that is computed from the square of an element is the element or its opposite. -/
theorem root_of_square (y : Element) : (y ^ 2) ^ ((fieldSize + 1) / 4) = y ∨
    (y ^ 2) ^ ((fieldSize + 1) / 4) = -y := by
  by_cases zero : y = 0
  · left
    rw [zero, zero_pow (by decide), zero_pow (by decide)]
  · have power : (y ^ 2) ^ ((fieldSize + 1) / 4) = y * y ^ (fieldSize / 2) := by
      rw [← pow_mul, ← pow_succ']
      congr 1
    rw [power]
    rcases ZMod.pow_div_two_eq_neg_one_or_one fieldSize zero with one | minusOne
    · exact .inl (by rw [one, mul_one])
    · exact .inr (by rw [minusOne, mul_neg_one])

theorem pick_root (y : Element) {root : Nat} (isRoot : root = y.val ∨ root = (-y).val)
    (parity : Nat) (sameParity : parity % 2 = y.val % 2) :
    (if root % 2 = parity % 2 then root else fieldSize - root) = y.val := by
  have odd : fieldSize % 2 = 1 := by decide
  have small := ZMod.val_lt y
  rcases isRoot with rfl | rfl
  · rw [if_pos sameParity.symm]
  · by_cases zero : y = 0
    · subst zero
      simp [sameParity]
    · -- an element and its opposite add up to the size of the field, which is odd
      have positive : y.val ≠ 0 := by simpa using zero
      rw [ZMod.neg_val, if_neg zero, if_neg (by omega)]
      omega

theorem power_of_square (y : Element) :
    power (y ^ 2).val ((fieldSize + 1) / 4) = y.val ∨
      power (y ^ 2).val ((fieldSize + 1) / 4) = (-y).val := by
  have cast : (power (y ^ 2).val ((fieldSize + 1) / 4) : Element) =
      (y ^ 2) ^ ((fieldSize + 1) / 4) := by
    rw [cast_power, ZMod.natCast_zmod_val]
  exact (root_of_square y).imp (fun same => eq_val (power_lt _ _) (cast.trans same))
    (fun opposite => eq_val (power_lt _ _) (cast.trans opposite))

theorem square_of_power (y : Element) :
    power (y ^ 2).val ((fieldSize + 1) / 4) * power (y ^ 2).val ((fieldSize + 1) / 4) % fieldSize =
      (y ^ 2).val := by
  refine eq_val (mod_lt _) ?_
  rcases power_of_square y with same | opposite
  · rw [ZMod.natCast_mod, same, Nat.cast_mul, ZMod.natCast_zmod_val, sq]
  · rw [ZMod.natCast_mod, opposite, Nat.cast_mul, ZMod.natCast_zmod_val, neg_mul_neg, sq]

theorem ofCompressed?_compressed {p : curve.Point} (finite : p ≠ 0) :
    Point.ofCompressed? (coordinates p).compressed = some (coordinates p) := by
  cases p with
  | zero => exact absurd rfl finite
  | some x y on =>
    have small : x.val < 256 ^ 32 := (ZMod.val_lt x).trans (by decide)
    have square : (x.val * x.val % fieldSize * x.val + 7) % fieldSize = (y ^ 2).val := by
      refine eq_val (mod_lt _) ?_
      simp only [ZMod.natCast_mod, Nat.cast_mul, Nat.cast_add, Nat.cast_ofNat,
        ZMod.natCast_zmod_val, (nonsingular_iff x y).mp on]
      ring
    have squared := square_of_power y
    have picked := fun parity => pick_root y (power_of_square y) parity
    by_cases odd : y.val % 2 = 1
    · simp [coordinates, Point.compressed, Point.ofCompressed?, Bytes.toNat_ofNat small,
        square, odd, squared, ZMod.val_lt, picked 3 odd.symm]
    · simp [coordinates, Point.compressed, Point.ofCompressed?, Bytes.toNat_ofNat small,
        square, odd, squared, ZMod.val_lt, picked 2 (by omega)]

@[simp] theorem length_compressed (point : Point) : point.compressed.length = 33 := by
  cases point <;> simp [Point.compressed]

/-- A multiple of the generator that is not at infinity is read back from its short encoding. -/
theorem ofCompressed?_ofScalar {factor : Nat} (positive : 0 < factor)
    (small : factor < groupOrder) :
    Point.ofCompressed? (Point.ofScalar factor).compressed = some (.ofScalar factor) := by
  have finite := mt (ofScalar_eq_infinity_iff small).mp (Nat.ne_of_gt positive)
  rw [ofScalar_eq (small.trans groupOrder_lt)] at finite ⊢
  exact ofCompressed?_compressed (mt (coordinates_eq_infinity_iff _).mpr finite)

end Coffer.Secp256k1
