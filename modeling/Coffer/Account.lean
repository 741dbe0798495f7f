import Coffer.KeySource
import Coffer.Secret
import Coffer.SortedMap
import Coffer.Text.Blank
/-!
# Accounts

An account carries a pair of extended keys for each scheme that it supports, and the labels under
which receive indexes are reserved. Its number in the tree of keys is its position among the
accounts of the body.
-/

namespace Coffer

/-- The extended keys of an account under one scheme. -/
structure Derivation where
  scheme : Scheme
  xpriv : Secret
  xpub : String
  deriving DecidableEq

structure Account where
  label : String
  archived : Bool
  defaultScheme : Scheme
  derivations : List Derivation
  addressLabels : SortedMap UInt32 String
  deriving DecidableEq

def requireText (text what : String) : Except ValidationError Unit :=
  if Text.allBlank text then .error (.invalidInput s!"{what} must not be empty") else .ok ()

namespace Derivation

def protect (fields : Option FieldCipher) (scheme : Scheme) (keys : AccountKeys) :
    Except WalletError Derivation :=
  match Secret.protect fields keys.xpriv with
  | .ok xpriv => .ok ⟨scheme, xpriv, keys.xpub⟩
  | .error cause => .error cause

end Derivation

namespace Account

def ofDerivation (label : String) (derivation : Derivation) : Account :=
  ⟨label, false, derivation.scheme, [derivation], .empty⟩

def derivation? (account : Account) (scheme : Scheme) : Option Derivation :=
  account.derivations.find? fun derivation => derivation.scheme = scheme

def xpub? (account : Account) (scheme : Scheme) : Option String :=
  (account.derivation? scheme).map Derivation.xpub

def defaultXpub? (account : Account) : Option String := account.xpub? account.defaultScheme

/-- The scheme and extended public key of new receive addresses: the preferred scheme, or the
default one where the account does not have it. -/
def receiveXpub? (account : Account) (preferred : Scheme) : Option (Scheme × String) :=
  match account.xpub? preferred with
  | some xpub => some (preferred, xpub)
  | none => account.defaultXpub?.map fun xpub => (account.defaultScheme, xpub)

def lastXpub? (account : Account) (scheme : Scheme) : Option String :=
  (account.derivations.reverse.find? fun derivation => derivation.scheme = scheme).map
    Derivation.xpub

/-- The extended public key of each scheme, legacy first; of several derivations of one scheme the
last. -/
def xpubs (account : Account) : List (Scheme × String) :=
  [Scheme.legacy, Scheme.segwit].filterMap fun scheme =>
    (account.lastXpub? scheme).map fun xpub => (scheme, xpub)

/-- Whether the account has an extended public key under any scheme. -/
def owns (account : Account) (xpub : String) : Bool :=
  account.derivations.any fun derivation => derivation.xpub = xpub

/-- Reserves a receive index under a label. An index that is reserved under another label stays
so. -/
def withAddressLabel (account : Account) (index : UInt32) (label : String) :
    Except ValidationError Account :=
  if Text.allBlank label then .error (.invalidInput "address label must not be empty")
  else match account.addressLabels.find? index with
    | some existing =>
      if existing = label then
        .ok { account with addressLabels := account.addressLabels.insert index label }
      else .error (.indexAlreadyReserved index existing)
    | none => .ok { account with addressLabels := account.addressLabels.insert index label }

/-- The account with a derivation in place of those of its scheme; it becomes the default. -/
def withDerivation (account : Account) (derivation : Derivation) : Account :=
  { account with
    defaultScheme := derivation.scheme
    derivations :=
      (account.derivations.filter fun other => other.scheme ≠ derivation.scheme) ++ [derivation] }

def secrets (account : Account) : List Secret := account.derivations.map Derivation.xpriv

def mapSecrets (change : Secret → Except WalletError Secret) (account : Account) :
    Except WalletError Account := do
  let derivations ← account.derivations.mapM fun derivation => do
    return { derivation with xpriv := ← change derivation.xpriv }
  return { account with derivations }

/-- What an account has to be for the rest of the library to work with it. -/
def check (account : Account) (position : Nat) : Except ValidationError Unit :=
  if account.derivations.isEmpty then
    .error (.corruptedPayload s!"account {position} has no derivations")
  else if account.defaultXpub?.isNone then
    .error (.corruptedPayload
      s!"account {position} default derivation {account.defaultScheme.name} missing")
  else .ok ()

end Account

end Coffer
