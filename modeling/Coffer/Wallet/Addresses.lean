import Coffer.Payload.Accounts
import Coffer.Wallet.Basic
/-!
# Addresses of wallets

New addresses come from the default chain of an account. Whether an address is one of the wallet's
own is found out by deriving every chain up to the lookahead past its next index.
-/

namespace Coffer.Wallet

def defaultChain (account : Account) : Except WalletError (Scheme × String) :=
  match account.defaultXpub? with
  | some xpub => .ok (account.defaultScheme, xpub)
  | none => .error (.corrupted "account without default xpub")

def accountChain (wallet : Wallet) (position : UInt64) : Except WalletError (Scheme × String) := do
  let payload ← wallet.payload
  defaultChain (← liftError .validation (payload.account position))

/-- The default chain of the account at a position, and the index to hand out next on it. -/
def nextOn (wallet : Wallet) (position : UInt64) (chain : Chain) :
    Except WalletError (Scheme × String × UInt32) := do
  let (scheme, xpub) ← wallet.accountChain position
  return (scheme, xpub, ← wallet.synchronizer.allocator.nextIndex xpub scheme chain)

/-- The extended public key of the account at a position under a scheme. -/
def schemeXpub (wallet : Wallet) (position : UInt64) (scheme : Scheme) :
    Except WalletError String := do
  let payload ← wallet.payload
  let account ← liftError .validation (payload.account position)
  match account.xpub? scheme with
  | some xpub => return xpub
  | none => throw (.validation (.invalidInput s!"account has no {scheme.name} derivation"))

def nextReceivePosition (wallet : Wallet) (account : UInt64) : Except WalletError UInt32 := do
  let (scheme, xpub) ← wallet.accountChain account
  wallet.synchronizer.allocator.nextFree xpub scheme

def nextReceiveAddress (wallet : Wallet) (workplace : Workplace) (account : UInt64) :
    Except WalletError String := do
  let (scheme, xpub) ← wallet.accountChain account
  let index ← wallet.synchronizer.allocator.nextFree xpub scheme
  liftError .derivation (workplace.services.keys.addressAt xpub scheme .receive index)

def nextChangeAddress (wallet : Wallet) (workplace : Workplace) (account : UInt64) :
    Except WalletError String := do
  let (scheme, xpub) ← wallet.accountChain account
  let index := wallet.synchronizer.allocator.nextChange xpub scheme
  liftError .derivation (workplace.services.keys.addressAt xpub scheme .change index)

/-- The receive address some steps past the next one, if there is one. -/
def receiveAddressAt? (wallet : Wallet) (workplace : Workplace) (account : UInt64)
    (steps : UInt32) : Except WalletError (Option String) :=
  match wallet.accountChain account with
  | .error _ => .ok none
  | .ok (scheme, xpub) => do
    let next ← wallet.synchronizer.allocator.nextFree xpub scheme
    let index := next.toNat + steps.toNat
    if index < 0x100000000 then
      return (workplace.services.keys.addressAt xpub scheme .receive (UInt32.ofNat index)).toOption
    else return none

def nextReceiveIndex (wallet : Wallet) (account : UInt64) (scheme : Scheme) :
    Except WalletError UInt32 := do
  wallet.synchronizer.allocator.nextFree (← wallet.schemeXpub account scheme) scheme

def nextChangeIndex (wallet : Wallet) (account : UInt64) (scheme : Scheme) :
    Except WalletError UInt32 := do
  return wallet.synchronizer.allocator.nextChange (← wallet.schemeXpub account scheme) scheme

/-- Reserves a receive index under a label. What is reserved under that label already is not written
again. -/
def reserve (wallet : Wallet) (workplace : Workplace) (store : Store) (account : UInt64)
    (index : UInt32) (label : String) : Reply Committed :=
  let reserved := do
    let committed ← wallet.synchronizer.current
    let account ← liftError .validation (committed.payload.account account)
    return (committed, account.addressLabels.find? index == some label)
  match reserved with
  | .error cause => wallet.refuse store cause
  | .ok (committed, isReserved) =>
    if isReserved then ⟨.ok committed, wallet, store, []⟩
    else wallet.mutate workplace store false fun payload => payload.labelAddress account index label

/-- Reserves the next receive index under a label and tells its address. -/
def nextReceiveAndReserve (wallet : Wallet) (workplace : Workplace) (store : Store)
    (account : UInt64) (label : String) : Reply String :=
  match wallet.nextOn account .receive with
  | .error cause => wallet.refuse store cause
  | .ok (scheme, xpub, index) =>
    let reply :=
      wallet.mutate workplace store false fun payload => payload.labelAddress account index label
    { reply with
      result := do
        let _ ← reply.result
        liftError .derivation (workplace.services.keys.addressAt xpub scheme .receive index) }

/-- Records that an index was seen in use, and tells the counter. -/
def advanceChain (wallet : Wallet) (xpub : String) (scheme : Scheme) (chain : Chain)
    (observed : UInt32) : UInt32 × Wallet :=
  let allocator := wallet.synchronizer.allocator.advance xpub scheme chain observed
  ((allocator.state xpub scheme).counter chain,
    { wallet with synchronizer := { wallet.synchronizer with allocator } })

/-- Records that an index of an account was seen in use, and tells the counter. -/
def advance (wallet : Wallet) (account : UInt64) (scheme : Scheme) (chain : Chain)
    (observed : UInt32) : Except WalletError UInt32 × Wallet :=
  match wallet.schemeXpub account scheme with
  | .error cause => (.error cause, wallet)
  | .ok xpub =>
    let (counter, wallet) := wallet.advanceChain xpub scheme chain observed
    (.ok counter, wallet)

/-- Records that the next index of the default chain of an account is in use, and tells the
counter. -/
def increment (wallet : Wallet) (account : UInt64) (chain : Chain) :
    Except WalletError UInt32 × Wallet :=
  match wallet.nextOn account chain with
  | .error cause => (.error cause, wallet)
  | .ok (scheme, xpub, observed) =>
    let (counter, wallet) := wallet.advanceChain xpub scheme chain observed
    (.ok counter, wallet)

/-- Asks the indexer which indexes are in use; a wallet without extended keys has nothing to ask. -/
def askUsage (workplace : Workplace) (xpubs : List String) :
    Except WalletError (SortedMap String Usage) × List Request :=
  if xpubs.isEmpty then (.ok .empty, [])
  else (liftError .transport (workplace.indexer.usage xpubs), [.usage xpubs])

def refreshIndexes (wallet : Wallet) (workplace : Workplace) :
    Except WalletError Unit × Wallet × List Request :=
  match wallet.payload with
  | .error cause => (.error cause, wallet, [])
  | .ok payload =>
    let xpubs := (payload.accounts.flatMap Account.derivations).map Derivation.xpub
    match askUsage workplace xpubs with
    | (.error cause, requests) => (.error cause, wallet, requests)
    | (.ok report, requests) =>
      let allocator := wallet.synchronizer.allocator.rebuild payload report
      (.ok (), { wallet with synchronizer := { wallet.synchronizer with allocator } }, requests)

def searchWidth (wallet : Wallet) (workplace : Workplace) (derivation : Derivation)
    (chain : Chain) : Except WalletError UInt32 := do
  let next ← wallet.synchronizer.allocator.nextIndex derivation.xpub derivation.scheme chain
  return satAdd32 next workplace.config.lookahead

/-- Whether an address is one of the first `count` of a chain, from index `start` on. -/
def derivesFrom (keys : KeySource) (derivation : Derivation) (chain : Chain) (address : String)
    (start : Nat) : (count : Nat) → Bool
  | 0 => false
  | count + 1 =>
    match keys.addressAt derivation.xpub derivation.scheme chain (UInt32.ofNat start) with
    | .ok found =>
      found == address || derivesFrom keys derivation chain address (start + 1) count
    | .error _ => derivesFrom keys derivation chain address (start + 1) count

def derives (wallet : Wallet) (workplace : Workplace) (address : String) (derivation : Derivation)
    (chain : Chain) : Except WalletError Bool := do
  let width ← wallet.searchWidth workplace derivation chain
  return derivesFrom workplace.services.keys derivation chain address 0 width.toNat

/-- The chains of every account, in the order in which they are searched. -/
def chains (payload : Payload) : List (Account × Derivation × Chain) :=
  payload.accounts.flatMap fun account => account.derivations.flatMap fun derivation =>
    [Chain.receive, Chain.change].map fun chain => (account, derivation, chain)

/-- The account that an address belongs to, and its extended public key. -/
def owner? (wallet : Wallet) (workplace : Workplace) (payload : Payload) (address : String) :
    Except WalletError (Option (Account × String)) := do
  let found ← (chains payload).findM? fun (_, derivation, chain) =>
    wallet.derives workplace address derivation chain
  return found.map fun (account, derivation, _) => (account, derivation.xpub)

def xpubOf? (wallet : Wallet) (workplace : Workplace) (address : String) :
    Except WalletError (Option String) :=
  match wallet.payload? with
  | none => .ok none
  | some payload => do
    let owner? ← wallet.owner? workplace payload address
    return owner?.map Prod.snd

def ownsAddress (wallet : Wallet) (workplace : Workplace) (address : String) :
    Except WalletError Bool :=
  return (← wallet.xpubOf? workplace address).isSome

/-- What an address is shown as: the label of its imported entry or of its account, or itself. -/
def labelOf (wallet : Wallet) (workplace : Workplace) (address : String) :
    Except WalletError String :=
  match wallet.payload? with
  | none => .ok address
  | some payload =>
    match payload.imported? address with
    | some entry => .ok entry.displayLabel
    | none => do
      match ← wallet.owner? workplace payload address with
      | some (account, _) => return account.label
      | none => return address

def signingKey (wallet : Wallet) (workplace : Workplace) (account : UInt64) (scheme : Scheme)
    (chain : Chain) (index : UInt32) (second : Option String) : Except WalletError String := do
  let payload ← wallet.payload
  let xpriv ← payload.revealXpriv workplace.services.cipher account scheme second
  liftError .derivation (workplace.services.keys.signingKey xpriv chain index)

end Coffer.Wallet
