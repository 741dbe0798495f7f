import Coffer.Payload.SecondPassword
import Coffer.Services
/-!
# Changes of accounts

Every change works on the body in use. A new account takes the next number in the tree of keys,
which is its position, and carries every scheme of the version.
-/

namespace Coffer.Payload

def withBody (payload : Payload) (body : Body) : Payload := { payload with bodies := [body] }

def withAccount (payload : Payload) (index : UInt64) (account : Account) :
    Except WalletError Payload := do
  let body ← liftError .validation payload.requireBody
  let next ← liftError .validation (body.withAccount index account)
  return payload.withBody next

def accountNumber? (position : Nat) : Option UInt32 :=
  if position < 0x100000000 then some (UInt32.ofNat position) else none

def derive (services : Services) (fields : Option FieldCipher) (seed : Bytes) (number : UInt32)
    (scheme : Scheme) : Except WalletError Derivation := do
  let keys ← liftError .derivation (services.keys.accountKeys seed scheme number)
  Derivation.protect fields scheme keys

/-- An account with further derivations, the last of which becomes the default. -/
def deriveAll (services : Services) (fields : Option FieldCipher) (seed : Bytes) (number : UInt32) :
    List Scheme → Account → Except WalletError Account
  | [], account => .ok account
  | scheme :: others, account => do
    let derivation ← derive services fields seed number scheme
    deriveAll services fields seed number others (account.withDerivation derivation)

def addAccount (payload : Payload) (services : Services) (label : String) (second : Option String) :
    Except WalletError Payload := do
  liftError .validation (requireText label "account label")
  let body ← liftError .validation payload.requireBody
  let fields ← payload.fieldCipher services.cipher services.seed second
  let seed ← body.revealSeed fields
  match accountNumber? body.accounts.length with
  | none => throw (.validation (.invalidInput "too many accounts"))
  | some number =>
    let account ← deriveAll services fields seed number (Scheme.allFor payload.version)
      ⟨label, false, .legacy, [], .empty⟩
    return payload.withBody { body with accounts := body.accounts ++ [account] }

def labelAccount (payload : Payload) (index : UInt64) (label : String) :
    Except WalletError Payload := do
  liftError .validation (requireText label "account label")
  let account ← liftError .validation (payload.account index)
  payload.withAccount index { account with label }

/-- Archives an account or takes it back into use. The default account stays in use. -/
def archiveAccount (payload : Payload) (index : UInt64) (archived : Bool) :
    Except WalletError Payload := do
  let account ← liftError .validation (payload.account index)
  if archived && index == payload.defaultAccount then throw (.validation .archiveDefaultAccount)
  payload.withAccount index { account with archived }

def chooseDefault (payload : Payload) (index : UInt64) : Except WalletError Payload := do
  let account ← liftError .validation (payload.account index)
  if account.archived then throw (.validation (.accountArchived index))
  let body ← liftError .validation payload.requireBody
  return payload.withBody { body with defaultAccount := index }

/-- Records whether the user has shown to have the backup phrase. -/
def markVerified (payload : Payload) (verified : Bool) : Except WalletError Payload := do
  let body ← liftError .validation payload.requireBody
  return payload.withBody { body with verified }

def labelAddress (payload : Payload) (position : UInt64) (index : UInt32) (label : String) :
    Except WalletError Payload := do
  let account ← liftError .validation (payload.account position)
  let next ← liftError .validation (account.withAddressLabel index label)
  payload.withAccount position next

end Coffer.Payload
