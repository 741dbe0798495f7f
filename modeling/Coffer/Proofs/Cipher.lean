import Coffer.Services
import Coffer.Toy
/-!
# What is asked of a cipher

A password that is stretched at all gives a key, and the same password, stretched as often, opens
what it closed. The transparent cipher keeps both laws.
-/

namespace Coffer

namespace Cipher

/-- Decryption undoes encryption under the same password and count, whatever the seed was. -/
def Inverts (cipher : Cipher) : Prop :=
  ∀ (seed plain : Bytes) (password : String) (iterations : UInt32) (bytes : Bytes), 0 < iterations →
    cipher.encrypt seed plain password iterations = .ok bytes →
    cipher.decrypt bytes password iterations = .ok plain

/-- Encryption succeeds as long as the password is stretched at all. -/
def Encrypts (cipher : Cipher) : Prop :=
  ∀ (seed plain : Bytes) (password : String) (iterations : UInt32), 0 < iterations →
    ∃ bytes, cipher.encrypt seed plain password iterations = .ok bytes

end Cipher

namespace Toy

/-- Transparent collaborators on the first day of a year. -/
def services : Services := ⟨cipher, keySource, [], ⟨2020, 1, 1, 0, 0, 0, 0, by decide, by decide⟩⟩

theorem mask_mask (password bytes : Bytes) : mask password (mask password bytes) = bytes := by
  apply List.ext_getElem
  · simp only [mask, List.length_mapIdx]
  · intro i _ _
    simp only [mask, List.getElem_mapIdx, UInt8.xor_assoc, UInt8.xor_self, UInt8.xor_zero]

theorem length_fingerprint (password : Bytes) : (fingerprint password).length = 4 := by
  rw [fingerprint, List.length_take, Sha256.length_digest]
  rfl

theorem cipher_encrypts : cipher.Encrypts := by
  intro seed plain password iterations positive
  have stretched : iterations ≠ 0 := UInt32.pos_iff_ne_zero.mp positive
  exact ⟨_, if_neg stretched⟩

theorem cipher_inverts : cipher.Inverts := by
  intro seed plain password iterations bytes positive encrypted
  have stretched : iterations ≠ 0 := UInt32.pos_iff_ne_zero.mp positive
  simp only [cipher, if_neg stretched] at encrypted
  injection encrypted with sameBytes
  subst sameBytes
  -- What is masked comes after the count and the fingerprint of the password.
  have marks : (Bytes.ofNat 4 iterations.toNat ++ fingerprint (Bytes.ofText password)).length =
      8 := by
    rw [List.length_append, Bytes.length_ofNat, length_fingerprint]
  have long : ¬ (Bytes.ofNat 4 iterations.toNat ++ fingerprint (Bytes.ofText password) ++
      mask (Bytes.ofText password) plain).length < 8 := by
    rw [List.length_append, marks]
    omega
  simp only [cipher, if_neg long]
  rw [List.take_left' marks, if_pos rfl, List.drop_left' marks, mask_mask]

end Toy

end Coffer
