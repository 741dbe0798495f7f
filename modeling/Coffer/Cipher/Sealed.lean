import Coffer.Aead.Gcm
import Coffer.Cipher
import Coffer.Hash.Hmac
import Coffer.Stretch.Argon2
/-!
# The cipher of stored wallets

The password is stretched with Argon2id under a 16-byte salt, and the plain text is sealed with
AES-256 in Galois counter mode under a 12-byte nonce. A ciphertext is the salt, the nonce, the body
and the tag.
-/

namespace Coffer.Sealed

def saltLength : Nat := 16

def nonceLength : Nat := 12

def overhead : Nat := saltLength + nonceLength + 16

def deriveKey (password salt : Bytes) (iterations : UInt32) : Except CipherError Bytes :=
  match Argon2.derive password salt iterations with
  | .ok key => .ok key
  | .error refusal => .error (.encryption s!"key stretching: {refusal.message}")

def encryptWith (salt nonce plain : Bytes) (password : String) (iterations : UInt32) :
    Except CipherError Bytes :=
  match deriveKey (Bytes.ofText password) salt iterations with
  | .ok key => .ok (salt ++ nonce ++ Gcm.sealText key nonce plain)
  | .error cause => .error cause

/-- Decrypts; what is too short to hold a tag is refused before any key is derived. -/
def decrypt (ciphertext : Bytes) (password : String) (iterations : UInt32) :
    Except CipherError Bytes :=
  if ciphertext.length < overhead then
    .error (.malformed s!"encrypted data too short: {ciphertext.length} < {overhead}")
  else
    let salt := ciphertext.take saltLength
    let nonce := (ciphertext.drop saltLength).take nonceLength
    match deriveKey (Bytes.ofText password) salt iterations with
    | .error cause => .error cause
    | .ok key =>
      match Gcm.openText key nonce (ciphertext.drop (saltLength + nonceLength)) with
      | some plain => .ok plain
      | none => .error .decryption

/-- The cipher, which draws salt and nonce from the seed and the plain text. -/
def cipher : Cipher where
  encrypt seed plain password iterations :=
    let draw := Hmac.tag seed plain
    encryptWith (draw.take saltLength) ((draw.drop saltLength).take nonceLength) plain
      password iterations
  decrypt := decrypt

end Coffer.Sealed
