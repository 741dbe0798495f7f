import Coffer.Cipher.Sealed
import Coffer.Proofs.Aead.Gcm
import Coffer.Proofs.Cipher
/-!
# The cipher of stored wallets keeps both laws

Salt and nonce have fixed lengths, so that whoever decrypts finds them again, derives the same key
and opens what was sealed. It makes no difference how they are chosen. A password that is not
stretched at all gives no key.
-/

namespace Coffer.Sealed

theorem argon2_succeeds (password : Bytes) {salt : Bytes} {iterations : UInt32}
    (positive : 0 < iterations) (long : 8 ≤ salt.length) :
    ∃ key, Argon2.derive password salt iterations = .ok key := by
  have stretched : iterations ≠ 0 := UInt32.pos_iff_ne_zero.mp positive
  rw [Argon2.derive, if_neg stretched, if_neg (Nat.not_lt.mpr long)]
  exact ⟨_, rfl⟩

theorem deriveKey_succeeds (password : Bytes) {salt : Bytes} {iterations : UInt32}
    (positive : 0 < iterations) (long : 8 ≤ salt.length) :
    ∃ key, deriveKey password salt iterations = .ok key := by
  obtain ⟨key, derived⟩ := argon2_succeeds password positive long
  exact ⟨key, by rw [deriveKey, derived]⟩

theorem deriveKey_zero (password salt : Bytes) :
    deriveKey password salt 0 = .error (.encryption "key stretching: time cost is too small") := rfl

/-- A salt and a nonce. -/
structure Choice where
  salt : Bytes
  nonce : Bytes
  saltSize : salt.length = saltLength
  nonceSize : nonce.length = nonceLength

variable {choice : Choice} {salt nonce plain bytes : Bytes} {password : String}
  {iterations : UInt32}

theorem encryptWith_eq_ok :
    encryptWith salt nonce plain password iterations = .ok bytes ↔
      ∃ key, deriveKey (Bytes.ofText password) salt iterations = .ok key ∧
        bytes = salt ++ nonce ++ Gcm.sealText key nonce plain := by
  unfold encryptWith
  cases deriveKey (Bytes.ofText password) salt iterations with
  | error cause => simp
  | ok key => simp [eq_comm]

theorem encryptWith_succeeds (choice : Choice) (plain : Bytes) (password : String)
    (positive : 0 < iterations) :
    ∃ bytes, encryptWith choice.salt choice.nonce plain password iterations = .ok bytes := by
  have long : 8 ≤ choice.salt.length := by
    rw [choice.saltSize]
    decide
  obtain ⟨key, derived⟩ := deriveKey_succeeds (Bytes.ofText password) positive long
  exact ⟨_, encryptWith_eq_ok.mpr ⟨key, derived, rfl⟩⟩

theorem length_of_encryptWith
    (encrypted : encryptWith choice.salt choice.nonce plain password iterations = .ok bytes) :
    bytes.length = plain.length + overhead := by
  obtain ⟨key, _, rfl⟩ := encryptWith_eq_ok.mp encrypted
  rw [List.length_append, List.length_append, Gcm.length_sealText, choice.saltSize,
    choice.nonceSize, overhead]
  omega

theorem decrypt_encryptWith
    (encrypted : encryptWith choice.salt choice.nonce plain password iterations = .ok bytes) :
    decrypt bytes password iterations = .ok plain := by
  have long : ¬ bytes.length < overhead := by
    rw [length_of_encryptWith encrypted]
    omega
  obtain ⟨key, derived, rfl⟩ := encryptWith_eq_ok.mp encrypted
  have both : (choice.salt ++ choice.nonce).length = saltLength + nonceLength := by
    rw [List.length_append, choice.saltSize, choice.nonceSize]
  have first : (choice.salt ++ choice.nonce ++ Gcm.sealText key choice.nonce plain).take
      saltLength = choice.salt := by
    rw [List.append_assoc, List.take_left' choice.saltSize]
  have second : ((choice.salt ++ choice.nonce ++ Gcm.sealText key choice.nonce plain).drop
      saltLength).take nonceLength = choice.nonce := by
    rw [List.append_assoc, List.drop_left' choice.saltSize, List.take_left' choice.nonceSize]
  have third : (choice.salt ++ choice.nonce ++ Gcm.sealText key choice.nonce plain).drop
      (saltLength + nonceLength) = Gcm.sealText key choice.nonce plain := List.drop_left' both
  simp only [decrypt, if_neg long, first, second, third, derived, Gcm.openText_sealText]

/-- The cipher with salts and nonces that are chosen in some way. -/
def choosing (choose : (seed plain : Bytes) → Choice) : Cipher where
  encrypt seed plain := encryptWith (choose seed plain).salt (choose seed plain).nonce plain
  decrypt := decrypt

theorem choosing_inverts (choose : (seed plain : Bytes) → Choice) : (choosing choose).Inverts := by
  intro seed plain password iterations bytes _ encrypted
  exact decrypt_encryptWith encrypted

theorem choosing_encrypts (choose : (seed plain : Bytes) → Choice) :
    (choosing choose).Encrypts := by
  intro seed plain password iterations positive
  exact encryptWith_succeeds (choose seed plain) plain password positive

theorem length_salt (seed plain : Bytes) :
    ((Hmac.tag seed plain).take saltLength).length = saltLength := by
  rw [List.length_take, Hmac.length_tag]
  rfl

theorem length_nonce (seed plain : Bytes) :
    (((Hmac.tag seed plain).drop saltLength).take nonceLength).length = nonceLength := by
  rw [List.length_take, List.length_drop, Hmac.length_tag]
  rfl

/-- The salt and the nonce that are drawn from the seed and the plain text. -/
def Choice.drawn (seed plain : Bytes) : Choice :=
  ⟨_, _, length_salt seed plain, length_nonce seed plain⟩

theorem choosing_drawn : choosing Choice.drawn = cipher := rfl

theorem cipher_inverts : cipher.Inverts := by
  rw [← choosing_drawn]
  exact choosing_inverts Choice.drawn

theorem cipher_encrypts : cipher.Encrypts := by
  rw [← choosing_drawn]
  exact choosing_encrypts Choice.drawn

end Coffer.Sealed
