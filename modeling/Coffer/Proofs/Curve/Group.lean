import Coffer.Proofs.Curve.Field
/-!
# The group of the curve

The points of y² = x³ + 7 over the field form a group. Jacobian coordinates stand for its elements,
and the sums that are computed with them are the sums of the group.
-/

namespace Coffer.Secp256k1

def curve : WeierstrassCurve.Affine Element where
  a₁ := 0
  a₂ := 0
  a₃ := 0
  a₄ := 0
  a₆ := 7

theorem nonsingular_iff (x y : Element) : curve.Nonsingular x y ↔ y ^ 2 = x ^ 3 + 7 := by
  have discriminant : curve.Δ ≠ 0 := by
    simp only [curve, WeierstrassCurve.Δ, WeierstrassCurve.b₂, WeierstrassCurve.b₄,
      WeierstrassCurve.b₆, WeierstrassCurve.b₈]
    decide +kernel
  rw [← curve.equation_iff_nonsingular_of_Δ_ne_zero discriminant, curve.equation_iff]
  simp [curve]

@[simp] theorem negY_eq (x y : Element) : curve.negY x y = -y := by
  simp [WeierstrassCurve.Affine.negY, curve]

theorem addX_eq (x₁ x₂ slope : Element) : curve.addX x₁ x₂ slope = slope ^ 2 - x₁ - x₂ := by
  simp [curve]

theorem addY_eq (x₁ x₂ y₁ slope : Element) :
    curve.addY x₁ x₂ y₁ slope = slope * (x₁ - (slope ^ 2 - x₁ - x₂)) - y₁ := by
  rw [WeierstrassCurve.Affine.addY, negY_eq, WeierstrassCurve.Affine.negAddY, addX_eq]
  ring

theorem two_ne_zero : (2 : Element) ≠ 0 := by decide +kernel

/-- Coordinates that stand for an element of the group. The second one is reduced, since doubling
compares it with zero. -/
inductive Represents : Jacobian → curve.Point → Prop
  | infinity {point : Jacobian} (zero : point.z = 0) : Represents point 0
  | affine {point : Jacobian} {x y : Element} (on : curve.Nonsingular x y)
    (reduced : point.y < fieldSize) (nonzero : (point.z : Element) ≠ 0) (atX : (point.x : Element) =
      x * point.z ^ 2)
    (atY : (point.y : Element) = y * point.z ^ 3) : Represents point (.some x y on)

variable {left right point : Jacobian} {p q : curve.Point}

theorem Jacobian.double_y_lt (point : Jacobian) : point.double.y < fieldSize := by
  rw [double]
  split
  case isTrue infinite => exact fieldSize_prime.one_lt
  case isFalse finite => exact sub_lt _ _

theorem cast_double (zNonzero : point.z ≠ 0) (yNonzero : point.y ≠ 0) :
    (point.double.x : Element) = (3 * point.x ^ 2) ^ 2 - 2 * (4 * point.x * point.y ^ 2) ∧
    (point.double.y : Element) =
      3 * point.x ^ 2 * (4 * point.x * point.y ^ 2 - point.double.x) - 8 * point.y ^ 4 ∧
    (point.double.z : Element) = 2 * point.y * point.z := by
  have finite : ¬ (point.z = 0 || point.y = 0) := by simp [zNonzero, yNonzero]
  simp only [Jacobian.double, if_neg finite, ZMod.natCast_mod, cast_sub, Nat.cast_mul,
    Nat.cast_ofNat]
  exact ⟨by ring, by ring, trivial⟩

theorem ne_negY {x y : Element} (offAxis : y ≠ 0) : y ≠ curve.negY x y := by
  rw [negY_eq, Ne, eq_neg_iff_add_eq_zero, ← two_mul]
  exact mul_ne_zero two_ne_zero offAxis

theorem slope_self {x y : Element} (offAxis : y ≠ 0) :
    curve.slope x x y y = 3 * x ^ 2 / (2 * y) := by
  rw [curve.slope_of_Y_ne rfl (ne_negY offAxis), negY_eq, sub_neg_eq_add, ← two_mul]
  simp [curve]

theorem Represents.double (represents : Represents point p) : Represents point.double (p + p) := by
  cases represents with
  | infinity zero =>
    rw [Jacobian.double, if_pos (by simp [zero])]
    exact .infinity rfl
  | @affine x y on reduced nonzero atX atY =>
    have zNonzero := ne_zero_of_cast nonzero
    by_cases yZero : point.y = 0
    · -- a point on the axis is its own inverse
      have onAxis : y = 0 := by simpa [yZero, nonzero] using atY.symm
      have selfInverse : y = curve.negY x y := by rw [negY_eq, onAxis, neg_zero]
      rw [Jacobian.double, if_pos (by simp [yZero]),
        WeierstrassCurve.Affine.Point.add_self_of_Y_eq selfInverse]
      exact .infinity rfl
    · have two := two_ne_zero
      have offAxis : y ≠ 0 := by
        rintro rfl
        rw [zero_mul, cast_eq_zero_iff reduced] at atY
        exact yZero atY
      obtain ⟨atX', atY', atZ'⟩ := cast_double zNonzero yZero
      rw [atX', atX, atY] at atY'
      rw [atX, atY] at atX'
      rw [atY] at atZ'
      rw [WeierstrassCurve.Affine.Point.add_self_of_Y_ne (ne_negY offAxis)]
      refine .affine _ point.double_y_lt ?_ ?_ ?_
      · rw [atZ']
        exact mul_ne_zero (mul_ne_zero two (mul_ne_zero offAxis (pow_ne_zero 3 nonzero))) nonzero
      · rw [atX', atZ', slope_self offAxis, addX_eq]
        field_simp
        ring
      · rw [atY', atZ', slope_self offAxis, addY_eq]
        field_simp
        ring

theorem Jacobian.add_y_lt (leftReduced : left.y < fieldSize) (rightReduced : right.y < fieldSize) :
    (left.add right).y < fieldSize := by
  simp only [add]
  split_ifs
  · exact rightReduced
  · exact leftReduced
  · exact left.double_y_lt
  · exact fieldSize_prime.one_lt
  · exact sub_lt _ _

theorem scaledX_eq_iff (x z x' z' : Nat) :
    x * (z * z % fieldSize) % fieldSize = x' * (z' * z' % fieldSize) % fieldSize ↔
      (x : Element) * z ^ 2 = x' * z' ^ 2 := by
  simp only [← ZMod.natCast_eq_natCast_iff', Nat.cast_mul, ZMod.natCast_mod, sq]

theorem scaledY_eq_iff (y z y' z' : Nat) :
    y * (z * z % fieldSize) % fieldSize * z % fieldSize =
        y' * (z' * z' % fieldSize) % fieldSize * z' % fieldSize ↔
      (y : Element) * z ^ 3 = y' * z' ^ 3 := by
  simp only [← ZMod.natCast_eq_natCast_iff', Nat.cast_mul, ZMod.natCast_mod, pow_succ, pow_zero,
    one_mul, mul_assoc]

theorem add_of_same (leftNonzero : left.z ≠ 0) (rightNonzero : right.z ≠ 0)
    (sameX : (left.x : Element) * right.z ^ 2 = right.x * left.z ^ 2) :
    left.add right =
      if (left.y : Element) * right.z ^ 3 = right.y * left.z ^ 3 then
        left.double else .infinity := by
  simp only [Jacobian.add, if_neg leftNonzero, if_neg rightNonzero, scaledX_eq_iff, if_pos sameX,
    scaledY_eq_iff]

theorem cast_add {u s h r : Element} (leftNonzero : left.z ≠ 0) (rightNonzero : right.z ≠ 0)
    (atU : u = left.x * right.z ^ 2) (atS : s = left.y * right.z ^ 3)
    (atH : h = right.x * left.z ^ 2 - u) (atR : r = right.y * left.z ^ 3 - s) (distinct : h ≠ 0) :
    ((left.add right).x : Element) = r ^ 2 - (h ^ 3 + 2 * (u * h ^ 2)) ∧
    ((left.add right).y : Element) = r * (u * h ^ 2 - (left.add right).x) - s * h ^ 3 ∧
    ((left.add right).z : Element) = h * left.z * right.z := by
  have differ : ¬ (left.x : Element) * right.z ^ 2 = right.x * left.z ^ 2 := by
    rw [← atU, eq_comm, ← sub_eq_zero, ← atH]
    exact distinct
  simp only [Jacobian.add, if_neg leftNonzero, if_neg rightNonzero, scaledX_eq_iff, if_neg differ,
    ZMod.natCast_mod, cast_sub, Nat.cast_mul, Nat.cast_add, Nat.cast_ofNat]
  subst atR atH atS atU
  exact ⟨by ring, by ring, by ring⟩

section
variable {x₁ y₁ x₂ y₂ : Element} {on₁ : curve.Nonsingular x₁ y₁} {on₂ : curve.Nonsingular x₂ y₂}

theorem Represents.z_ne_zero (represents : Represents point (.some x₁ y₁ on₁)) : point.z ≠ 0 := by
  cases represents with
  | affine _ _ nonzero _ _ => exact ne_zero_of_cast nonzero

theorem Represents.add_of_X_eq (first : Represents left (.some x₁ y₁ on₁))
    (second : Represents right (.some x₂ y₂ on₂))
    (sameX : x₁ = x₂) : Represents (left.add right) (.some x₁ y₁ on₁ + .some x₂ y₂ on₂) := by
  subst sameX
  have leftNonzero := first.z_ne_zero
  have rightNonzero := second.z_ne_zero
  cases first with
  | affine _ reduced₁ nonzero₁ atX₁ atY₁ =>
    cases second with
    | affine _ reduced₂ nonzero₂ atX₂ atY₂ =>
      rw [add_of_same leftNonzero rightNonzero (by rw [atX₁, atX₂]; ring)]
      by_cases sameY : y₁ = y₂
      · subst sameY
        rw [if_pos (by rw [atY₁, atY₂]; ring)]
        exact (Represents.affine on₁ reduced₁ nonzero₁ atX₁ atY₁).double
      · have opposite : y₁ = curve.negY x₁ y₂ :=
          (curve.Y_eq_of_X_eq on₁.1 on₂.1 rfl).resolve_left sameY
        have differ : ¬ (left.y : Element) * right.z ^ 3 = right.y * left.z ^ 3 := by
          rw [atY₁, atY₂]
          intro same
          refine sameY (mul_right_cancel₀
            (mul_ne_zero (pow_ne_zero 3 nonzero₁) (pow_ne_zero 3 nonzero₂)) ?_)
          linear_combination same
        rw [if_neg differ, WeierstrassCurve.Affine.Point.add_of_Y_eq rfl opposite]
        exact .infinity rfl

theorem Represents.add_of_X_ne (first : Represents left (.some x₁ y₁ on₁))
    (second : Represents right (.some x₂ y₂ on₂))
    (distinct : x₁ ≠ x₂) : Represents (left.add right) (.some x₁ y₁ on₁ + .some x₂ y₂ on₂) := by
  have leftNonzero := first.z_ne_zero
  have rightNonzero := second.z_ne_zero
  cases first with
  | affine _ reduced₁ nonzero₁ atX₁ atY₁ =>
    cases second with
    | affine _ reduced₂ nonzero₂ atX₂ atY₂ =>
      have rise : (right.y : Element) * left.z ^ 3 - left.y * right.z ^ 3 =
          (y₂ - y₁) * (left.z * right.z) ^ 3 := by rw [atY₁, atY₂]; ring
      have run : (right.x : Element) * left.z ^ 2 - left.x * right.z ^ 2 =
          (x₂ - x₁) * (left.z * right.z) ^ 2 := by rw [atX₁, atX₂]; ring
      have apart : x₁ - x₂ ≠ 0 := sub_ne_zero_of_ne distinct
      have nonzero :=
        mul_ne_zero (sub_ne_zero_of_ne distinct.symm)
        (pow_ne_zero 2 (mul_ne_zero nonzero₁ nonzero₂))
      obtain ⟨atX, atY, atZ⟩ := cast_add leftNonzero rightNonzero rfl rfl run.symm rise.symm nonzero
      rw [atX] at atY
      rw [WeierstrassCurve.Affine.Point.add_of_X_ne distinct]
      refine .affine _ (Jacobian.add_y_lt reduced₁ reduced₂) ?_ ?_ ?_
      · rw [atZ]
        exact mul_ne_zero (mul_ne_zero nonzero nonzero₁) nonzero₂
      · rw [atX, atZ, atX₁, curve.slope_of_X_ne distinct, addX_eq]
        field_simp
        ring
      · rw [atY, atZ, atX₁, atY₁, curve.slope_of_X_ne distinct, addY_eq]
        field_simp
        ring

end

theorem Represents.add (first : Represents left p) (second : Represents right q) :
    Represents (left.add right) (p + q) := by
  cases p with
  | zero =>
    cases first with
    | infinity zero =>
      rwa [Jacobian.add, if_pos zero, ← WeierstrassCurve.Affine.Point.zero_def, zero_add]
  | some x₁ y₁ on₁ =>
    cases q with
    | zero =>
      cases second with
      | infinity zero =>
        rwa [Jacobian.add, if_neg first.z_ne_zero, if_pos zero,
          ← WeierstrassCurve.Affine.Point.zero_def, add_zero]
    | some x₂ y₂ on₂ =>
      by_cases sameX : x₁ = x₂
      · exact first.add_of_X_eq second sameX
      · exact first.add_of_X_ne second sameX

end Coffer.Secp256k1
