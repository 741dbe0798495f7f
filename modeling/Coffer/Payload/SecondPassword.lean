import Coffer.Payload.Basic
/-!
# Second passwords

With a second password every secret is encrypted once more. It is checked against the first
encrypted secret, or against its iterated digest where the wallet has no secret yet.
-/

namespace Coffer.Payload

def fieldsOf (payload : Payload) (cipher : Cipher) (seed : Bytes) (second : String) : FieldCipher :=
  ⟨cipher, seed, payload.sharedKey ++ second, payload.iterations⟩

def hashOf (payload : Payload) (second : String) : String :=
  secondPasswordHash payload.sharedKey second payload.iterations

/-- The field cipher for the secrets of a wallet, or none where it has no second password. -/
def fieldCipher (payload : Payload) (cipher : Cipher) (seed : Bytes) (second : Option String) :
    Except WalletError (Option FieldCipher) :=
  if !payload.doubleEncrypted then .ok none
  else match second with
    | none => .error (.credential .invalidSecondPassword)
    | some second =>
      let fields := payload.fieldsOf cipher seed second
      match payload.secrets.find? Secret.isEncrypted with
      | some reference =>
        match fields.reveal reference with
        | .ok _ => .ok (some fields)
        | .error cause => .error cause
      | none =>
        if payload.secondHash = some (payload.hashOf second) then .ok (some fields)
        else .error (.credential .invalidSecondPassword)

def checkSecond (payload : Payload) (cipher : Cipher) (second : Option String) :
    Except WalletError Unit :=
  match payload.fieldCipher cipher [] second with
  | .ok _ => .ok ()
  | .error cause => .error cause

/-- The payload with every secret encrypted under a new second password. -/
def setSecond (payload : Payload) (cipher : Cipher) (seed : Bytes) (second : String) :
    Except WalletError Payload := do
  if payload.doubleEncrypted then throw (.validation .secondPasswordAlreadySet)
  liftError .validation (requireText second "second password")
  liftError .validation payload.checkEncryption
  let locked ← payload.mapSecrets (payload.fieldsOf cipher seed second).lock
  return { locked with doubleEncrypted := true, secondHash := some (payload.hashOf second) }

def unsetSecond (payload : Payload) (cipher : Cipher) (second : String) :
    Except WalletError Payload := do
  match ← payload.fieldCipher cipher [] (some second) with
  | none => throw (.validation (.invalidInput "second password is not enabled"))
  | some fields =>
    let unlocked ← payload.mapSecrets fields.unlock
    return { unlocked with doubleEncrypted := false, secondHash := none }

def revealPhrase (payload : Payload) (cipher : Cipher) (second : Option String) :
    Except WalletError String := do
  let body ← liftError .validation payload.requireBody
  let fields ← payload.fieldCipher cipher [] second
  let entropy ← body.revealEntropy fields
  liftError .derivation (Phrase.reveal entropy)

def revealXpriv (payload : Payload) (cipher : Cipher) (index : UInt64) (scheme : Scheme)
    (second : Option String) : Except WalletError String := do
  let account ← liftError .validation (payload.account index)
  match account.derivation? scheme with
  | none => throw (.validation (.invalidInput s!"account has no {scheme.name} derivation"))
  | some derivation =>
    let fields ← payload.fieldCipher cipher [] second
    derivation.xpriv.reveal fields

def revealImported (payload : Payload) (cipher : Cipher) (address : String)
    (second : Option String) : Except WalletError String :=
  match payload.imported? address with
  | none => .error (.validation (.addressNotFound address))
  | some entry =>
    match entry.key with
    | none => .error (.validation (.invalidInput s!"{address} is watch-only"))
    | some key => do
      let fields ← payload.fieldCipher cipher [] second
      key.reveal fields

end Coffer.Payload
