import Coffer.Proofs.KeySource.Texts
/-!
# Children of private and of public keys

Every child is a key again, and below 2^31 the child of a public key is the public key of the child
of the private one: both add the same tweak, one to the scalar and the other to its multiple.
-/

namespace Coffer.ExtendedKey

open Secp256k1 (Point groupOrder)

variable {key child : Private}

theorem length_fingerprint (point : Point) : (fingerprint point).length = 4 := by
  simp [fingerprint, keyHash]

theorem Private.isKey_of_child? {number : UInt32} (found : key.child? number = some child) :
    child.IsKey := by
  simp only [child?, Option.ite_none_right_eq_some, Option.some.injEq] at found
  obtain ⟨⟨-, nonzero⟩, rfl⟩ := found
  refine ⟨⟨length_fingerprint _, by simp⟩,
    (SigningKey.isScalar_iff _).mpr ⟨Nat.pos_of_ne_zero nonzero, ?_⟩⟩
  exact Nat.mod_lt _ Secp256k1.groupOrder_prime.pos

namespace Public

def digestOf (key : Public) (number : UInt32) : Bytes :=
  Hmac.tag key.position.chainCode (key.point.compressed ++ Bytes.ofNat 4 number.toNat)

def tweakOf (key : Public) (number : UInt32) : Nat := Bytes.toNat ((key.digestOf number).take 32)

def positionOf (key : Public) (number : UInt32) : Position :=
  ⟨key.position.isMain, key.position.depth + 1, fingerprint key.point, number,
    (key.digestOf number).drop 32⟩

theorem tweakOf_lt (key : Public) (number : UInt32) : key.tweakOf number < 2 ^ 256 := by
  have width : ((key.digestOf number).take 32).length ≤ 32 := List.length_take_le 32 _
  calc key.tweakOf number < 256 ^ ((key.digestOf number).take 32).length := Bytes.toNat_lt _
    _ ≤ 256 ^ 32 := Nat.pow_le_pow_right (by decide) width
    _ = 2 ^ 256 := by norm_num

theorem child?_eq (key : Public) (number : UInt32) :
    key.child? number =
      if key.tweakOf number < groupOrder ∧ (Point.ofScalar (key.tweakOf number)).add key.point ≠
        .infinity then
        some ⟨key.positionOf number, (Point.ofScalar (key.tweakOf number)).add key.point⟩
          else none := rfl

end Public

namespace Private

theorem child?_eq (key : Private) {number : UInt32} (normal : number < 0x80000000) :
    key.child? number =
      if key.toPublic.tweakOf number < groupOrder ∧
        (key.toPublic.tweakOf number + key.scalar) % groupOrder ≠ 0 then
        some ⟨key.toPublic.positionOf number, (key.toPublic.tweakOf number + key.scalar) %
          groupOrder⟩ else none := by
  simp only [child?, if_pos normal]
  rfl

theorem child?_toPublic (isKey : key.IsKey) {number : UInt32} (normal : number < 0x80000000) :
    key.toPublic.child? number = (key.child? number).map toPublic := by
  obtain ⟨-, scalarSmall⟩ := (SigningKey.isScalar_iff key.scalar).mp isKey.isScalar
  have tweakSmall := key.toPublic.tweakOf_lt number
  rw [key.child?_eq normal, key.toPublic.child?_eq number]
  -- the digest is out of the way now: what follows holds of every tweak that fits
  generalize key.toPublic.tweakOf number = tweak at tweakSmall ⊢
  have sum : Point.ofScalar ((tweak + key.scalar) % groupOrder) =
      (Point.ofScalar tweak).add key.toPublic.point :=
    Secp256k1.ofScalar_add_mod tweakSmall (scalarSmall.trans Secp256k1.groupOrder_lt)
  have infinite :=
    Secp256k1.ofScalar_eq_infinity_iff
    (Nat.mod_lt (tweak + key.scalar) Secp256k1.groupOrder_prime.pos)
  by_cases found : tweak < groupOrder ∧ (tweak + key.scalar) % groupOrder ≠ 0
  · rw [if_pos found, if_pos ⟨found.1, sum ▸ mt infinite.mp found.2⟩, ← sum]
    rfl
  · have absent : ¬ (tweak < groupOrder ∧
        (Point.ofScalar tweak).add key.toPublic.point ≠ .infinity) := by
      rw [← sum, Ne, infinite]
      exact found
    rw [if_neg found, if_neg absent]
    rfl

end Private

end Coffer.ExtendedKey
