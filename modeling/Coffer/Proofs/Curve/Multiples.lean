import Coffer.Proofs.Curve.Group
/-!
# Multiples of the generator

Each element of the group has one point with reduced coordinates, which all Jacobian coordinates
that stand for the element lead to. So the multiple that the digits of a factor add up to is the
multiple in the group, the sum of two points is the sum in the group, and the factors may be added
modulo the order of the generator.
-/

namespace Coffer.Secp256k1

/-- The point of an element of the group, in reduced coordinates. -/
def coordinates : curve.Point → Point
  | .zero => .infinity
  | .some x y _ => .affine x.val y.val

@[simp] theorem coordinates_eq_infinity_iff (p : curve.Point) :
    coordinates p = .infinity ↔ p = 0 := by
  cases p with
  | zero => simp [coordinates, WeierstrassCurve.Affine.Point.zero_def]
  | some x y on => simp [coordinates]

theorem represents_ofPoint (p : curve.Point) : Represents (.ofPoint (coordinates p)) p := by
  cases p with
  | zero => exact .infinity rfl
  | some x y on =>
    refine .affine on (ZMod.val_lt y) ?_ ?_ ?_
    all_goals simp [coordinates, Jacobian.ofPoint]

theorem Represents.toPoint {point : Jacobian} {p : curve.Point} (represents : Represents point p) :
    point.toPoint = coordinates p := by
  cases represents with
  | infinity zero => simp [Jacobian.toPoint, zero, coordinates]
  | @affine x y on reduced nonzero atX atY =>
    have zNonzero := ne_zero_of_cast nonzero
    have first : point.x * (inverse point.z * inverse point.z % fieldSize) % fieldSize = x.val := by
      refine eq_val (mod_lt _) ?_
      simp only [ZMod.natCast_mod, Nat.cast_mul, cast_inverse, atX]
      field_simp
    have second : point.y * (inverse point.z * inverse point.z % fieldSize) % fieldSize * inverse
        point.z % fieldSize = y.val := by
      refine eq_val (mod_lt _) ?_
      simp only [ZMod.natCast_mod, Nat.cast_mul, cast_inverse, atY]
      field_simp
    simp only [Jacobian.toPoint, if_neg zNonzero, first, second, coordinates]

theorem add_coordinates (p q : curve.Point) :
    (coordinates p).add (coordinates q) = coordinates (p + q) :=
  ((represents_ofPoint p).add (represents_ofPoint q)).toPoint

/-- The digits of a factor add up to the multiple of the factor, as far as there are doubles. -/
theorem Represents.sumOfDigits {total point : Jacobian} {p q : curve.Point}
    (sum : Represents total p) (double : Represents point q) (count factor : Nat) :
    Represents (Secp256k1.sumOfDigits total factor (doubles count point))
      (p + (factor % 2 ^ count) • q) := by
  induction count generalizing total point p q factor with
  | zero => simpa [doubles, Secp256k1.sumOfDigits, Nat.mod_one] using sum
  | succ count ih =>
    have digit : Represents (if factor % 2 = 1 then total.add point else total)
        (p + (factor % 2) • q) := by
      rcases Nat.mod_two_eq_zero_or_one factor with even | odd
      · simpa [even] using sum
      · simpa [odd] using sum.add double
    have rest := ih digit double.double (factor / 2)
    have split : factor % 2 + 2 * (factor / 2 % 2 ^ count) = factor % 2 ^ (count + 1) := by
      rw [Nat.pow_succ, Nat.mul_comm (2 ^ count), Nat.mod_mul]
    rw [← two_nsmul, ← mul_nsmul', add_assoc, ← add_nsmul] at rest
    rwa [doubles, Secp256k1.sumOfDigits, ← split, Nat.mul_comm 2]

theorem generator_on : curve.Nonsingular
    (0x79be667ef9dcbbac55a06295ce870b07029bfcdb2dce28d959f2815b16f81798 : Nat)
    (0x483ada7726a3c4655da4fbfc0e1108a8fd17b448a68554199c47d08ffb10d4b8 : Nat) := by
  rw [nonsingular_iff]
  decide +kernel

def base : curve.Point := .some _ _ generator_on

theorem coordinates_base : coordinates base = generator := by
  decide +kernel

theorem ofScalar_eq {factor : Nat} (small : factor < 2 ^ 256) :
    Point.ofScalar factor = coordinates (factor • base) := by
  have start : Represents .infinity (0 : curve.Point) := .infinity rfl
  have multiple := start.sumOfDigits (represents_ofPoint base) 256 factor
  rw [coordinates_base, Nat.mod_eq_of_lt small, zero_add] at multiple
  exact multiple.toPoint

theorem groupOrder_lt : groupOrder < 2 ^ 256 := by decide

theorem groupOrder_nsmul : groupOrder • base = 0 := by
  have found : Point.ofScalar groupOrder = .infinity := by decide +kernel
  rwa [ofScalar_eq groupOrder_lt, coordinates_eq_infinity_iff] at found

theorem addOrderOf_base : addOrderOf base = groupOrder := by
  have : Fact groupOrder.Prime := ⟨groupOrder_prime⟩
  exact addOrderOf_eq_prime groupOrder_nsmul
    (WeierstrassCurve.Affine.Point.some_ne_zero generator_on)

theorem nsmul_base_eq_zero_iff (factor : Nat) : factor • base = 0 ↔ groupOrder ∣ factor := by
  rw [← addOrderOf_base, addOrderOf_dvd_iff_nsmul_eq_zero]

theorem ofScalar_add_mod {first second : Nat} (firstSmall : first < 2 ^ 256)
    (secondSmall : second < 2 ^ 256) :
    Point.ofScalar ((first + second) % groupOrder) =
      (Point.ofScalar first).add (.ofScalar second) := by
  have small : (first + second) % groupOrder < 2 ^ 256 :=
    (Nat.mod_lt _ groupOrder_prime.pos).trans groupOrder_lt
  rw [ofScalar_eq small, ofScalar_eq firstSmall, ofScalar_eq secondSmall,
    add_coordinates, ← add_nsmul, ← addOrderOf_base, mod_addOrderOf_nsmul]

theorem ofScalar_eq_infinity_iff {factor : Nat} (small : factor < groupOrder) :
    Point.ofScalar factor = .infinity ↔ factor = 0 := by
  rw [ofScalar_eq (small.trans groupOrder_lt), coordinates_eq_infinity_iff, nsmul_base_eq_zero_iff]
  constructor
  · exact fun divides => Nat.eq_zero_of_dvd_of_lt divides small
  · exact fun zero => zero ▸ dvd_zero groupOrder

end Coffer.Secp256k1
