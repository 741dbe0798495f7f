import Coffer.Bytes.Hex
import Coffer.Error
import Coffer.Text.Utf8
/-!
# Ciphers

A cipher encrypts under a password that is stretched a number of times. What it needs of chance is
an argument: a seed, fresh for every call that encrypts. Text fields are encrypted as UTF-8 and
stored in hexadecimal.
-/

namespace Coffer

structure Cipher where
  /-- Encrypts a plain text; the seed decides everything that is chosen at random. -/
  encrypt : (seed plain : Bytes) → (password : String) → (iterations : UInt32) →
    Except CipherError Bytes
  /-- Recovers a plain text; a wrong password, a wrong count and a changed ciphertext fail as
  decryption. -/
  decrypt : (ciphertext : Bytes) → (password : String) → (iterations : UInt32) →
    Except CipherError Bytes

namespace Cipher

def encryptField (cipher : Cipher) (seed : Bytes) (plain : String) (password : String)
    (iterations : UInt32) : Except CipherError String :=
  match cipher.encrypt seed (Bytes.ofText plain) password iterations with
  | .ok bytes => .ok (Hex.encode bytes)
  | .error cause => .error cause

def decryptField (cipher : Cipher) (field : String) (password : String) (iterations : UInt32) :
    Except CipherError String :=
  match Hex.decode field with
  | .error fault => .error (.malformed fault.message)
  | .ok bytes =>
    match cipher.decrypt bytes password iterations with
    | .error cause => .error cause
    | .ok plain =>
      match Text.Utf8.decode plain with
      | .ok text => .ok text
      | .error fault => .error (.malformed fault.message)

end Cipher

end Coffer
