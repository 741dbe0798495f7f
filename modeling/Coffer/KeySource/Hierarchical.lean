import Coffer.KeySource
import Coffer.KeySource.ExtendedKey
import Coffer.Text.Bech32
/-!
# Keys from a tree

The source of keys of a network: accounts live at purpose, coin and account, all hardened, and
addresses at chain and index below the account. Legacy addresses are the digest of the public key in
base 58, segwit ones in bech32. The network decides how addresses and signing keys are written; what
an extended key or a signing key that is handed in says about its network does not matter.
-/

namespace Coffer.Hierarchical

open ExtendedKey (Private Public hardened keyHash)

/-- A number of a step on a path, which has to be below 2^31. -/
def checkNumber (number : UInt32) : Except DerivationError UInt32 :=
  if number < 0x80000000 then .ok number
  else .error (.derivation s!"child number {number} is invalid (not within [0, 2^31 - 1])")

/-- A failure that would need a digest outside the group, which no one has seen. -/
def missingChild : DerivationError := .derivation "the child key does not exist"

def address (network : Network) (publicBytes : Bytes) : Scheme → Except DerivationError String
  | .legacy =>
    .ok (Base58.encodeChecked ((if network.isMain then 0x00 else 0x6f) :: keyHash publicBytes))
  | .segwit =>
    if publicBytes.length = 33 then .ok (Bech32.encode network.segwitWord (keyHash publicBytes))
    else .error (.derivation "segwit public keys must always be compressed")

def accountKeys (network : Network) (seed : Bytes) (scheme : Scheme) (account : UInt32) :
    Except DerivationError AccountKeys := do
  if seed.length < 16 ∨ 64 < seed.length then
    throw (.invalidSeed s!"seed must be 16..=64 bytes, got {seed.length}")
  let root ← orFail (.invalidSeed "the seed leads to no key") (Private.ofSeed? network.isMain seed)
  let number ← checkNumber account
  let purpose ← orFail missingChild (root.child? (hardened scheme.purpose))
  let coin ← orFail missingChild (purpose.child? (hardened 0))
  let key ← orFail missingChild (coin.child? (hardened number))
  return ⟨key.encode, key.toPublic.encode⟩

def addressAt (network : Network) (xpub : String) (scheme : Scheme) (chain : Chain)
    (index : UInt32) : Except DerivationError String := do
  let account ← orFail (.invalidExtendedKey "no extended public key") (Public.decode? xpub)
  let number ← checkNumber index
  let branch ← orFail missingChild (account.child? chain.number)
  let key ← orFail missingChild (branch.child? number)
  address network key.point.compressed scheme

def signingKey (network : Network) (xpriv : String) (chain : Chain) (index : UInt32) :
    Except DerivationError String := do
  let account ← orFail (.invalidExtendedKey "no extended private key") (Private.decode? xpriv)
  let number ← checkNumber index
  let branch ← orFail missingChild (account.child? chain.number)
  let key ← orFail missingChild (branch.child? number)
  return SigningKey.encode ⟨network.isMain, true, key.scalar⟩

def addressForKey (network : Network) (wif : String) (scheme : Scheme) :
    Except DerivationError String := do
  let key ← orFail (.invalidPrivateKey "no signing key") (SigningKey.decode? wif)
  address network key.publicBytes scheme

def keySource (network : Network) : KeySource where
  accountKeys := accountKeys network
  addressAt := addressAt network
  signingKey := signingKey network
  addressForKey := addressForKey network

end Coffer.Hierarchical
