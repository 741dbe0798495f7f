import Coffer.Account
import Coffer.Phrase
/-!
# Wallet bodies

The seed of a wallet, as the entropy of its backup phrase, and the accounts that are derived from
it.
-/

namespace Coffer

/-- The body of a wallet with accounts. -/
structure Body where
  seed : Secret
  verified : Bool
  defaultAccount : UInt64
  accounts : List Account
  deriving DecidableEq

namespace Body

def ofEntropy (source : KeySource) (fields : Option FieldCipher) (entropy : Bytes) (label : String)
    (scheme : Scheme) : Except WalletError Body := do
  let seed ← liftError .derivation (Phrase.seedOf entropy)
  let keys ← liftError .derivation (source.accountKeys seed scheme 0)
  let secret ← Secret.protect fields (Hex.encode entropy)
  let derivation ← Derivation.protect fields scheme keys
  return ⟨secret, false, 0, [.ofDerivation label derivation]⟩

def account? (body : Body) (index : UInt64) : Option Account := body.accounts[index.toNat]?

def revealEntropy (body : Body) (fields : Option FieldCipher) : Except WalletError Bytes := do
  let text ← body.seed.reveal fields
  match Hex.decode text with
  | .ok entropy => return entropy
  | .error fault => throw (.corrupted s!"seed material: {fault.message}")

def revealSeed (body : Body) (fields : Option FieldCipher) : Except WalletError Bytes := do
  let entropy ← body.revealEntropy fields
  liftError .derivation (Phrase.seedOf entropy)

/-- The position of the account that has an extended public key. -/
def indexOf? (body : Body) (xpub : String) : Option Nat :=
  body.accounts.findIdx? fun account => account.owns xpub

/-- The body with another account at a position that there is. -/
def withAccount (body : Body) (index : UInt64) (account : Account) : Except ValidationError Body :=
  if index.toNat < body.accounts.length then
    .ok { body with accounts := body.accounts.set index.toNat account }
  else .error (.accountNotFound index)

def secrets (body : Body) : List Secret := body.seed :: body.accounts.flatMap Account.secrets

def mapSecrets (change : Secret → Except WalletError Secret) (body : Body) :
    Except WalletError Body := do
  let accounts ← body.accounts.mapM (Account.mapSecrets change)
  return { body with seed := ← change body.seed, accounts }

/-- Checks every account, the first of which is at `position`. -/
def checkAccounts (position : Nat) : List Account → Except ValidationError Unit
  | [] => .ok ()
  | account :: later =>
    match account.check position with
    | .ok _ => checkAccounts (position + 1) later
    | .error cause => .error cause

/-- What a body has to be for the rest of the library to work with it. -/
def check (body : Body) : Except ValidationError Unit :=
  if body.accounts.isEmpty then .error (.corruptedPayload "wallet body has no accounts")
  else match checkAccounts 0 body.accounts with
    | .error cause => .error cause
    | .ok _ =>
      match body.account? body.defaultAccount with
      | none => .error (.corruptedPayload s!"default account {body.defaultAccount} out of range")
      | some account =>
        if account.archived then
          .error (.corruptedPayload s!"default account {body.defaultAccount} is archived")
        else .ok ()

end Body

end Coffer
