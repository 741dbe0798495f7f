import Coffer.Proofs.Bytes.Hex
import Coffer.Proofs.Cipher
import Coffer.Proofs.Error
import Coffer.Secret
/-!
# Secrets and field ciphers

What a field cipher encrypts it reveals again, as long as its cipher undoes itself at the count that
it is used with. The seed that is used up by encrypting plays no part in revealing.
-/

namespace Coffer

namespace Cipher

/-- Decryption undoes encryption at one count of stretchings. -/
def InvertsAt (cipher : Cipher) (iterations : UInt32) : Prop :=
  ∀ (seed plain : Bytes) (password : String) (bytes : Bytes),
    cipher.encrypt seed plain password iterations = .ok bytes →
      cipher.decrypt bytes password iterations = .ok plain

theorem Inverts.at {cipher : Cipher} (inverts : cipher.Inverts) {iterations : UInt32}
    (positive : 0 < iterations) : cipher.InvertsAt iterations :=
  fun seed plain password bytes encrypted =>
    inverts seed plain password iterations bytes positive encrypted

variable {cipher : Cipher} {seed : Bytes} {plain password field : String} {iterations : UInt32}

theorem decryptField_of_encryptField (inverts : cipher.InvertsAt iterations)
    (encrypted : cipher.encryptField seed plain password iterations = .ok field) :
    cipher.decryptField field password iterations = .ok plain := by
  unfold encryptField at encrypted
  split at encrypted
  · rename_i bytes made
    cases encrypted
    simp only [decryptField, Hex.decode_encode, inverts seed _ password bytes made,
      Text.Utf8.decode_ofText]
  · cases encrypted

theorem encryptField_succeeds (encrypts : cipher.Encrypts) (positive : 0 < iterations)
    (seed : Bytes) (plain password : String) :
    ∃ field, cipher.encryptField seed plain password iterations = .ok field := by
  obtain ⟨bytes, made⟩ := encrypts seed (Bytes.ofText plain) password iterations positive
  simp only [encryptField, made]
  exact ⟨_, rfl⟩

end Cipher

/-- A count at which the transparent cipher refuses to encrypt is none that it fails to decrypt
at. -/
theorem Toy.cipher_invertsAt (iterations : UInt32) : cipher.InvertsAt iterations := by
  by_cases positive : 0 < iterations
  · exact cipher_inverts.at positive
  · rw [UInt32.not_lt, UInt32.le_zero_iff] at positive
    subst positive
    intro seed plain password bytes encrypted
    cases encrypted

namespace FieldCipher

variable {fields : FieldCipher} {secret result : Secret} {text : String}

theorem encrypt_eq_ok (encrypted : fields.encrypt text = .ok secret) :
    ∃ field, secret = .encrypted field ∧
      fields.cipher.encryptField fields.seed text fields.key fields.iterations = .ok field := by
  unfold encrypt at encrypted
  split at encrypted
  · rename_i field made
    cases encrypted
    exact ⟨field, rfl, made⟩
  · cases encrypted

theorem encrypt_succeeds (fields : FieldCipher) (encrypts : fields.cipher.Encrypts)
    (positive : 0 < fields.iterations) (text : String) :
    ∃ secret, fields.encrypt text = .ok secret := by
  obtain ⟨field, made⟩ := Cipher.encryptField_succeeds encrypts positive fields.seed text fields.key
  simp only [encrypt, made]
  exact ⟨_, rfl⟩

theorem isEncrypted_of_encrypt (encrypted : fields.encrypt text = .ok secret) :
    secret.isEncrypted = true := by
  obtain ⟨_, rfl, _⟩ := encrypt_eq_ok encrypted
  rfl

theorem isEncrypted_of_lock (locked : fields.lock secret = .ok result) :
    result.isEncrypted = true := by
  cases secret with
  | plain text => exact isEncrypted_of_encrypt locked
  | encrypted field =>
    cases locked
    rfl

theorem isEncrypted_of_unlock (unlocked : fields.unlock secret = .ok result) :
    result.isEncrypted = false := by
  unfold unlock at unlocked
  split at unlocked
  · cases unlocked
    rfl
  · cases unlocked

theorem reveal_of_encrypt (inverts : fields.cipher.InvertsAt fields.iterations)
    (encrypted : fields.encrypt text = .ok secret) : fields.reveal secret = .ok text := by
  obtain ⟨field, rfl, made⟩ := encrypt_eq_ok encrypted
  simp only [reveal, Cipher.decryptField_of_encryptField inverts made]

theorem reveal_seed (cipher : Cipher) (seed other : Bytes) (key : String) (iterations : UInt32) :
    (FieldCipher.mk cipher seed key iterations).reveal =
      (FieldCipher.mk cipher other key iterations).reveal := by
  funext secret
  cases secret <;> rfl

end FieldCipher

namespace Secret

@[simp] theorem reveal_some (fields : FieldCipher) (secret : Secret) :
    secret.reveal (some fields) = fields.reveal secret := by
  cases secret <;> rfl

theorem reveal_none_eq_ok {secret : Secret} {text : String} :
    secret.reveal none = .ok text ↔ secret = .plain text := by
  cases secret <;> simp [reveal]

theorem reveal_of_protect {fields : Option FieldCipher} {text : String} {secret : Secret}
    (inverts : ∀ cipher, fields = some cipher → cipher.cipher.InvertsAt cipher.iterations)
    (made : protect fields text = .ok secret) : secret.reveal fields = .ok text := by
  cases fields with
  | none =>
    cases made
    rfl
  | some fields =>
    rw [reveal_some]
    exact FieldCipher.reveal_of_encrypt (inverts fields rfl) made

end Secret

end Coffer
