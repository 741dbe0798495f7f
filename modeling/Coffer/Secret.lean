import Coffer.Cipher
import Coffer.Hash.Sha256
import Coffer.Json.Record
/-!
# Secrets

A seed, an extended private key or an imported key is stored in the clear or encrypted under the
shared key of the wallet followed by its second password. Which of the two it is can be seen without
trying a password.
-/

namespace Coffer

inductive Secret where
  | plain (text : String)
  | encrypted (field : String)
  deriving DecidableEq

namespace Secret

def isEncrypted : Secret → Bool
  | plain _ => false
  | encrypted _ => true

mutual

/-- Whether every part of a document can be used: its strings are text and its numbers finite. -/
def isUsable : Json → Bool
  | .text spelling => (Json.spelledText? spelling).isSome
  | .number spelling => Json.isFinite spelling
  | .array items => areUsable items
  | .object members => membersAreUsable members
  | _ => true

def areUsable : List Json → Bool
  | [] => true
  | item :: others => isUsable item && areUsable others

def membersAreUsable : List (Bytes × Json) → Bool
  | [] => true
  | (key, value) :: others =>
    (Json.spelledText? key).isSome && isUsable value && membersAreUsable others

end

/-- How many arrays and objects may be nested around and in a secret. -/
def depthLimit : Nat := 127

/-- A secret as a document: a string in the clear, an object with one string when encrypted. -/
def toJson : Secret → Json
  | plain text => .ofText text
  | encrypted field => .object [Json.member "encrypted" (.ofText field)]

/-- The secret of a document that stands inside `outer` arrays and objects. Other members of an
object are left alone, but unlike those of a record they must be usable. -/
def ofJson? (outer : Nat) (json : Json) : Option Secret :=
  match json with
  | .text spelling => (Json.spelledText? spelling).map plain
  | .object members => do
    if outer + json.depth ≤ depthLimit && membersAreUsable members then
      let field ← Json.field? "encrypted" (← Json.keyed? members)
      (Json.required Json.text? field).map encrypted
    else none
  | _ => none

end Secret

/-- What it takes to encrypt and decrypt the secrets of a wallet. -/
structure FieldCipher where
  cipher : Cipher
  /-- Decides what is chosen at random when a secret is encrypted. -/
  seed : Bytes
  key : String
  iterations : UInt32

namespace FieldCipher

def encrypt (fields : FieldCipher) (text : String) : Except WalletError Secret :=
  match fields.cipher.encryptField fields.seed text fields.key fields.iterations with
  | .ok field => .ok (.encrypted field)
  | .error cause => .error (.cipher cause)

/-- The text of a secret; a wrong key is a wrong second password. -/
def reveal (fields : FieldCipher) : Secret → Except WalletError String
  | .plain text => .ok text
  | .encrypted field =>
    match fields.cipher.decryptField field fields.key fields.iterations with
    | .ok text => .ok text
    | .error .decryption => .error (.credential .invalidSecondPassword)
    | .error cause => .error (.cipher cause)

def lock (fields : FieldCipher) : Secret → Except WalletError Secret
  | .plain text => fields.encrypt text
  | .encrypted field => .ok (.encrypted field)

def unlock (fields : FieldCipher) (secret : Secret) : Except WalletError Secret :=
  match fields.reveal secret with
  | .ok text => .ok (.plain text)
  | .error cause => .error cause

end FieldCipher

/-- The text of a secret for a caller who may lack the second password. -/
def Secret.reveal (fields : Option FieldCipher) (secret : Secret) : Except WalletError String :=
  match secret, fields with
  | .plain text, _ => .ok text
  | .encrypted _, some fields => fields.reveal secret
  | .encrypted _, none => .error (.credential .invalidSecondPassword)

/-- A new secret, encrypted where the wallet has a second password. -/
def Secret.protect (fields : Option FieldCipher) (text : String) : Except WalletError Secret :=
  match fields with
  | some fields => fields.encrypt text
  | none => .ok (.plain text)

def digestAgain : (count : Nat) → Bytes → Bytes
  | 0, digest => digest
  | count + 1, digest => digestAgain count (Sha256.digest digest)

/-- The iterated digest of shared key and second password, by which a wallet without any secret
tells a right second password from a wrong one. -/
def secondPasswordHash (sharedKey second : String) (iterations : UInt32) : String :=
  Hex.encode (digestAgain (iterations.toNat - 1)
    (Sha256.digest (Bytes.ofText (sharedKey ++ second))))

end Coffer
