import Coffer.Cipher
import Coffer.Hash.Sha256
import Coffer.KeySource
/-!
# Transparent collaborators

A cipher and a source of keys whose results can be read by eye: the cipher combines the plain text
with the repeated password, and keys and addresses spell the path that leads to them. They keep no
secret and serve to try out what is built on a cipher and a source of keys.
-/

namespace Coffer.Toy

/-- A plain text combined with the repeated password; an empty password changes nothing. -/
def mask (password bytes : Bytes) : Bytes :=
  bytes.mapIdx fun i byte => byte ^^^ password.getD (i % password.length) 0

def fingerprint (password : Bytes) : Bytes := (Sha256.digest password).take 4

/-- The transparent cipher: the count, four bytes that identify the password, and the masked
text. -/
def cipher : Cipher where
  encrypt _ plain password iterations :=
    let secret := Bytes.ofText password
    if iterations = 0 then .error (.encryption "toy: zero iterations")
    else .ok (Bytes.ofNat 4 iterations.toNat ++ fingerprint secret ++ mask secret plain)
  decrypt ciphertext password iterations :=
    let secret := Bytes.ofText password
    if ciphertext.length < 8 then .error (.malformed s!"toy: too short: {ciphertext.length} < 8")
    else if ciphertext.take 8 = Bytes.ofNat 4 iterations.toNat ++ fingerprint secret then
      .ok (mask secret (ciphertext.drop 8))
    else .error .decryption

def checkIndex (index : UInt32) : Except DerivationError Unit :=
  if index < 0x80000000 then .ok () else .error (.derivation s!"toy: index {index} too large")

def after? (mark text : List Char) : Option (List Char) :=
  if mark.isPrefixOf text then some (text.drop mark.length) else none

def keySource : KeySource where
  accountKeys seed scheme account := do
    checkIndex account
    let path := s!"{scheme.name}-{account}-" ++ Hex.encode ((Sha256.digest seed).take 4)
    return ⟨"prv-" ++ path, "pub-" ++ path⟩
  addressAt xpub scheme chain index :=
    match after? ['p', 'u', 'b', '-'] xpub.toList with
    | none => .error (.invalidExtendedKey "toy")
    | some _ => do
      checkIndex index
      return s!"{scheme.name}:{xpub}/{chain.number}/{index}"
  signingKey xpriv chain index :=
    match after? ['p', 'r', 'v', '-'] xpriv.toList with
    | none => .error (.invalidExtendedKey "toy")
    | some _ => do
      checkIndex index
      return s!"{xpriv}/{chain.number}/{index}"
  addressForKey wif scheme :=
    match after? ['w', 'i', 'f', '-'] wif.toList with
    | none => .error (.invalidPrivateKey "toy")
    | some rest => .ok (s!"addr-{scheme.name}-" ++ String.ofList rest)

end Coffer.Toy
