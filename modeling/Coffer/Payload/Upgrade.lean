import Coffer.Payload.Accounts
/-!
# Upgrades

An upgrade makes a complete new payload or fails. Accounts come with version 3, segwit with version
4.
-/

namespace Coffer.Payload

/-- A failure to derive keys during an upgrade is a failure of the upgrade. -/
def upgradeError : WalletError → WalletError
  | .derivation cause => .derivation (.upgrade cause.message)
  | cause => cause

/-- Gives a wallet of an older version its first body, with one account. -/
def upgradeToAccounts (payload : Payload) (services : Services) (entropy : Bytes) (label : String)
    (second : Option String) : Except WalletError Payload := do
  if !payload.needsAccounts then
    throw (.validation (.wrongVersion payload.version.number Version.v2.number))
  liftError .validation (requireText label "account label")
  let fields ← payload.fieldCipher services.cipher services.seed second
  match Body.ofEntropy services.keys fields entropy label .legacy with
  | .error cause => throw (upgradeError cause)
  | .ok body => return { payload with bodies := [body], version := .v3 }

/-- Gives an account its segwit keys, unless it has some already. -/
def addSegwit (services : Services) (fields : Option FieldCipher) (seed : Bytes) (position : Nat)
    (account : Account) : Except WalletError Account :=
  if (account.xpub? .segwit).isSome then .ok account
  else match accountNumber? position with
    | none => .error (.derivation (.upgrade "out of range integral type conversion attempted"))
    | some number =>
      match services.keys.accountKeys seed .segwit number with
      | .error cause => .error (.derivation (.upgrade s!"account {position}: {cause.message}"))
      | .ok keys =>
        match Derivation.protect fields .segwit keys with
        | .error cause => .error cause
        | .ok derivation => .ok (account.withDerivation derivation)

/-- Gives every account its segwit keys; the first one has the given position. -/
def addSegwitFrom (services : Services) (fields : Option FieldCipher) (seed : Bytes)
    (position : Nat) : List Account → Except WalletError (List Account)
  | [] => .ok []
  | account :: later => do
    let next ← addSegwit services fields seed position account
    let others ← addSegwitFrom services fields seed (position + 1) later
    return next :: others

def upgradeBody (services : Services) (fields : Option FieldCipher) (body : Body) :
    Except WalletError Body := do
  let seed ← body.revealSeed fields
  let accounts ← addSegwitFrom services fields seed 0 body.accounts
  return { body with accounts }

/-- Gives every account its segwit keys, which become its default. -/
def upgradeToSegwit (payload : Payload) (services : Services) (second : Option String) :
    Except WalletError Payload := do
  if !payload.needsSegwit then
    throw (.validation (.wrongVersion payload.version.number Version.v3.number))
  let fields ← payload.fieldCipher services.cipher services.seed second
  let bodies ← payload.bodies.mapM (upgradeBody services fields)
  return { payload with bodies, version := .v4 }

end Coffer.Payload
