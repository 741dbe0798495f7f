import Coffer.Error
/-!
# Sources of keys

Whatever turns a seed into the extended keys of an account and those into addresses and signing
keys. Extended keys, addresses and signing keys are texts in the formats of the source.
-/

namespace Coffer

/-- The pair of extended keys of an account. -/
structure AccountKeys where
  xpriv : String
  xpub : String
  deriving DecidableEq, Repr

structure KeySource where
  accountKeys : (seed : List UInt8) → Scheme → (account : UInt32) →
    Except DerivationError AccountKeys
  addressAt : (xpub : String) → Scheme → Chain → (index : UInt32) → Except DerivationError String
  /-- The key that signs for an index on a chain of an account. -/
  signingKey : (xpriv : String) → Chain → (index : UInt32) → Except DerivationError String
  addressForKey : (wif : String) → Scheme → Except DerivationError String

namespace KeySource

def addressesFrom (source : KeySource) (xpub : String) (scheme : Scheme) (start : Nat) :
    (count : Nat) → Except DerivationError (List String)
  | 0 => .ok []
  | count + 1 =>
    match source.addressAt xpub scheme .receive (UInt32.ofNat start) with
    | .error cause => .error cause
    | .ok address =>
      match source.addressesFrom xpub scheme (start + 1) count with
      | .error cause => .error cause
      | .ok later => .ok (address :: later)

/-- The receive addresses of `count` indexes from `start` on, as far as indexes below 2^32 - 1
go. -/
def receiveAddresses (source : KeySource) (xpub : String) (scheme : Scheme) (start count : UInt32) :
    Except DerivationError (List String) :=
  source.addressesFrom xpub scheme start.toNat (min count.toNat (0xffffffff - start.toNat))

/-- The same source, refusing the keys of one account under one scheme. -/
def refusing (source : KeySource) (scheme : Scheme) (account : UInt32) : KeySource :=
  { source with
    accountKeys := fun seed wantedScheme wanted =>
      if wantedScheme = scheme ∧ wanted = account then
        .error (.derivation s!"refusing {scheme.name} account {account}")
      else source.accountKeys seed wantedScheme wanted }

end KeySource

end Coffer
