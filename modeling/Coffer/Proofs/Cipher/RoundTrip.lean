import Coffer.Proofs.Cipher.Sealed
import Coffer.Proofs.Secret
/-!
# Bytes and text fields come back

Whatever is encrypted comes back under the same password and count, bytes and text fields alike,
whatever salt and nonce are chosen. Too short a ciphertext is refused without a key being derived,
and nothing is encrypted under a password that is not stretched. Lengths are not limited: the bounds
that sealing and stretching are specified for, far beyond any wallet, play no part in what comes
back.
-/

namespace Coffer.Sealed

variable {ciphertext : Bytes} {password : String} {iterations : UInt32}

/-- Decryption where the derivation of a key may have any effect, so that it shows whether a key is
derived. -/
def decryptBy {m : Type → Type} [Monad m]
    (derive : (password salt : Bytes) → (iterations : UInt32) → m (Except CipherError Bytes))
    (ciphertext : Bytes) (password : String) (iterations : UInt32) : m (Except CipherError Bytes) :=
  if ciphertext.length < overhead then
    pure (.error (.malformed s!"encrypted data too short: {ciphertext.length} < {overhead}"))
  else do
    let salt := ciphertext.take saltLength
    let nonce := (ciphertext.drop saltLength).take nonceLength
    match ← derive (Bytes.ofText password) salt iterations with
    | .error cause => return .error cause
    | .ok key =>
      match Gcm.openText key nonce (ciphertext.drop (saltLength + nonceLength)) with
      | some plain => return .ok plain
      | none => return .error .decryption

theorem decryptBy_pure {m : Type → Type} [Monad m] [LawfulMonad m] (ciphertext : Bytes)
    (password : String) (iterations : UInt32) :
    decryptBy (m := m) (fun password salt iterations => pure (deriveKey password salt iterations))
      ciphertext password iterations = pure (decrypt ciphertext password iterations) := by
  unfold decryptBy decrypt
  by_cases short : ciphertext.length < overhead
  · rw [if_pos short, if_pos short]
  · rw [if_neg short, if_neg short, pure_bind]
    cases derived : deriveKey (Bytes.ofText password) (ciphertext.take saltLength) iterations with
    | error cause => simp only [derived]
    | ok key =>
      cases opened : Gcm.openText key ((ciphertext.drop saltLength).take nonceLength)
        (ciphertext.drop (saltLength + nonceLength)) with
      | none => simp only [derived, opened]
      | some plain => simp only [derived, opened]

theorem decryptBy_of_short {m : Type → Type} [Monad m]
    (derive : (password salt : Bytes) → (iterations : UInt32) → m (Except CipherError Bytes))
    (short : ciphertext.length < overhead) :
    decryptBy derive ciphertext password iterations =
      pure (.error (.malformed s!"encrypted data too short: {ciphertext.length} < {overhead}")) :=
  if_pos short

theorem decrypt_of_short (short : ciphertext.length < overhead) :
    decrypt ciphertext password iterations =
      .error (.malformed s!"encrypted data too short: {ciphertext.length} < {overhead}") :=
  if_pos short

theorem field_comes_back (choose : (seed plain : Bytes) → Choice) (seed : Bytes)
    (text password : String) (positive : 0 < iterations) :
    ∃ field, (choosing choose).encryptField seed text password iterations = .ok field ∧
      (choosing choose).decryptField field password iterations = .ok text := by
  obtain ⟨field, encrypted⟩ :=
    Cipher.encryptField_succeeds (choosing_encrypts choose) positive seed text password
  exact ⟨field, encrypted, Cipher.decryptField_of_encryptField
    ((choosing_inverts choose).at positive) encrypted⟩

theorem encryptWith_zero (salt nonce plain : Bytes) (password : String) :
    encryptWith salt nonce plain password 0 =
      .error (.encryption "key stretching: time cost is too small") := by
  rw [encryptWith, deriveKey_zero]

/-- Bytes and text fields come back, whatever salt and nonce they are encrypted with, as long as the
password is stretched at all; the ciphertext is longer by the salt, the nonce and the tag. What is
shorter than these is refused before a key is derived, and a password that is not stretched encrypts
nothing. -/
theorem encryption_round_trips :
    (∀ (choice : Choice) plain password iterations, 0 < iterations →
        ∃ bytes, encryptWith choice.salt choice.nonce plain password iterations = .ok bytes ∧
          bytes.length = plain.length + 44 ∧ decrypt bytes password iterations = .ok plain) ∧
      (∀ choose seed text password iterations, 0 < iterations →
        ∃ field, (choosing choose).encryptField seed text password iterations = .ok field ∧
          (choosing choose).decryptField field password iterations = .ok text) ∧
      (∀ ciphertext password iterations, ciphertext.length < 44 →
        decrypt ciphertext password iterations =
          .error (.malformed s!"encrypted data too short: {ciphertext.length} < {44}")) ∧
      (∀ (m : Type → Type) [Monad m] [LawfulMonad m] ciphertext password iterations,
        decryptBy (m := m) (fun password salt iterations =>
            pure (deriveKey password salt iterations)) ciphertext
            password iterations = pure (decrypt ciphertext password iterations) ∧
          (ciphertext.length < 44 →
            ∀ derive, decryptBy (m := m) derive ciphertext password iterations =
            pure (.error (.malformed s!"encrypted data too short: {ciphertext.length} < {44}")))) ∧
      ∀ (choice : Choice) plain password, encryptWith choice.salt choice.nonce plain password 0 =
        .error (.encryption "key stretching: time cost is too small") := by
  refine ⟨?_, ?_, ?_, ?_, ?_⟩
  · intro choice plain password iterations positive
    obtain ⟨bytes, encrypted⟩ := encryptWith_succeeds choice plain password positive
    exact ⟨bytes, encrypted, length_of_encryptWith encrypted, decrypt_encryptWith encrypted⟩
  · intro choose seed text password iterations positive
    exact field_comes_back choose seed text password positive
  · intro ciphertext password iterations short
    exact decrypt_of_short short
  · intro m _ _ ciphertext password iterations
    constructor
    · exact decryptBy_pure ciphertext password iterations
    · intro short derive
      exact decryptBy_of_short derive short
  · intro choice plain password
    exact encryptWith_zero choice.salt choice.nonce plain password

/-- A block and a byte more come back from 61 bytes, and so does a field with nothing in it. -/
theorem encryption_round_trips_past_block :
    (0 : UInt32) < 1 ∧
      (∃ bytes, cipher.encrypt [] (List.replicate 17 7) "password" 1 = .ok bytes ∧
        bytes.length = 61 ∧ cipher.decrypt bytes "password" 1 = .ok (List.replicate 17 7)) ∧
      (∃ field, cipher.encryptField [] "" "password" 1 = .ok field ∧
        cipher.decryptField field "password" 1 = .ok "") ∧
      (List.replicate 43 7).length < 44 ∧
      cipher.decrypt (List.replicate 43 7) "password" 0 =
        .error (.malformed "encrypted data too short: 43 < 44") := by
  obtain ⟨bytewise, fieldwise, refused, _⟩ := encryption_round_trips
  refine ⟨by decide, ?_, ?_, by decide, ?_⟩
  · exact bytewise (Choice.drawn [] (List.replicate 17 7)) (List.replicate 17 7)
      "password" 1 (by decide)
  · exact fieldwise Choice.drawn [] "" "password" 1 (by decide)
  · exact refused (List.replicate 43 7) "password" 0 (by decide)

end Coffer.Sealed
