import Coffer.Allocator
import Coffer.Services
import Coffer.Store
import Coffer.Wrapper
/-!
# Synchronizers

A synchronizer holds the payload that the store is known to have, its checksum and the main password
that it is wrapped under. A save is drafted from these without touching anything, is submitted in
one request, and only when the store accepts it do payload, checksum and password change, together.
-/

namespace Coffer

/-- A payload and the checksum that the store holds for it. -/
structure Committed where
  payload : Payload
  checksum : Checksum
  deriving DecidableEq

structure Surroundings where
  services : Services
  /-- The device that writes; without one nothing is written. -/
  device : Option Device
  /-- How many receive addresses of an account are announced. -/
  lookahead : UInt32

/-- The local side of a stored wallet. -/
structure Synchronizer where
  committed : Option Committed
  password : Option String
  allocator : Allocator
  deriving DecidableEq

/-- What is left after a request: its result, the synchronizer and the store. -/
structure Attempt (α : Type) where
  result : Except WalletError α
  synchronizer : Synchronizer
  store : Store

namespace Synchronizer

/-- The synchronizer that has loaded nothing, or has forgotten everything. -/
def initial : Synchronizer := ⟨none, none, .empty⟩

def current (synchronizer : Synchronizer) : Except WalletError Committed :=
  match synchronizer.committed with
  | some committed => .ok committed
  | none => .error (.validation .uninitialized)

def mainPassword (synchronizer : Synchronizer) : Except WalletError String :=
  match synchronizer.password with
  | some password => .ok password
  | none => .error (.validation .uninitialized)

def isMain (synchronizer : Synchronizer) (password : String) : Bool :=
  synchronizer.password = some password

/-- Takes over a payload that the store has under a checksum and a password. -/
def commit (synchronizer : Synchronizer) (committed : Committed) (password : String) :
    Synchronizer :=
  ⟨some committed, some password, synchronizer.allocator.syncLabels committed.payload⟩

def refuse {α : Type} (synchronizer : Synchronizer) (store : Store) (cause : WalletError) :
    Attempt α :=
  ⟨.error cause, synchronizer, store⟩

def accept (synchronizer : Synchronizer) (store : Store) (committed : Committed)
    (password : String) : Attempt Committed :=
  ⟨.ok committed, synchronizer.commit committed password, store⟩

/-- The payload of a stored text, if it is the one that was asked for. -/
def readStored (cipher : Cipher) (guid sharedKey text password : String) :
    Except WalletError Committed := do
  let (payload, checksum) ← unwrap cipher text password
  if payload.guid ≠ guid ∨ payload.sharedKey ≠ sharedKey then
    throw (.corrupted "stored payload belongs to another wallet")
  return ⟨payload, checksum⟩

def load (synchronizer : Synchronizer) (store : Store) (cipher : Cipher)
    (guid sharedKey password : String) : Attempt Committed :=
  match store.fetch guid sharedKey with
  | (.error cause, store) => synchronizer.refuse store cause.onFetch
  | (.ok text, store) =>
    match readStored cipher guid sharedKey text password with
    | .error cause => synchronizer.refuse store cause
    | .ok committed => synchronizer.accept store committed password

/-- Takes over a wrapper that came some other way; the store is not asked. -/
def loadText (synchronizer : Synchronizer) (store : Store) (cipher : Cipher)
    (text password : String) : Attempt Committed :=
  match unwrap cipher text password with
  | .error cause => synchronizer.refuse store cause
  | .ok (payload, checksum) => synchronizer.accept store ⟨payload, checksum⟩ password

/-- The device that may write a payload in place of an earlier one. -/
def checkCandidate (surroundings : Surroundings) (candidate : Payload) (previous : Option Payload) :
    Except WalletError Device := do
  match surroundings.device with
  | none => throw (.validation .missingDevice)
  | some device =>
    liftError .validation candidate.validate
    match previous with
    | none => return device
    | some previous =>
      liftError .validation (candidate.checkSucceeds previous)
      return device

def accountAddresses (synchronizer : Synchronizer) (surroundings : Surroundings)
    (preferred : Scheme) (account : Account) : Except WalletError (List String) :=
  match account.receiveXpub? preferred with
  | none => .ok []
  | some (scheme, xpub) => do
    let start ← synchronizer.allocator.nextFree xpub scheme
    liftError .derivation
      (surroundings.services.keys.receiveAddresses xpub scheme start surroundings.lookahead)

/-- The addresses that the store is to watch: the next receive addresses of every account in use,
and every imported address in use. -/
def announcedAddresses (synchronizer : Synchronizer) (surroundings : Surroundings)
    (payload : Payload) : Except WalletError (List String) := do
  let preferred := Scheme.defaultFor payload.version
  let lists ← payload.activeAccounts.mapM fun entry =>
    synchronizer.accountAddresses surroundings preferred entry.1
  return lists.flatten ++ payload.activeImported.map ImportedAddress.address

/-- A save that is ready to be submitted. -/
structure Draft where
  payload : Payload
  password : String
  request : UpdateRequest

def draft (synchronizer : Synchronizer) (surroundings : Surroundings) (previous : Committed)
    (candidate : Payload) (password : String) (announce : Bool) : Except WalletError Draft := do
  let device ← checkCandidate surroundings candidate (some previous.payload)
  let wrapped ← wrap surroundings.services.cipher surroundings.services.seed candidate password
  let announced ←
    if announce then synchronizer.announcedAddresses surroundings candidate else .ok []
  return {
    payload := candidate
    password
    request := {
      guid := candidate.guid
      sharedKey := candidate.sharedKey
      announced
      text := wrapped.text
      newChecksum := wrapped.checksum
      oldChecksum := previous.checksum
      device := device.system } }

def draftFirst (surroundings : Surroundings) (payload : Payload) (password email : String) :
    Except WalletError InsertRequest := do
  let device ← checkCandidate surroundings payload none
  let wrapped ← wrap surroundings.services.cipher surroundings.services.seed payload password
  return {
    guid := payload.guid
    sharedKey := payload.sharedKey
    text := wrapped.text
    checksum := wrapped.checksum
    email
    device := device.system }

def submit (synchronizer : Synchronizer) (store : Store) (draft : Except WalletError Draft) :
    Attempt Committed :=
  match draft with
  | .error cause => synchronizer.refuse store cause
  | .ok draft =>
    match store.update draft.request with
    | (.error cause, store) => synchronizer.refuse store (cause.onWrite draft.request.oldChecksum)
    | (.ok _, store) =>
      synchronizer.accept store ⟨draft.payload, draft.request.newChecksum⟩ draft.password

def saveNew (synchronizer : Synchronizer) (surroundings : Surroundings) (store : Store)
    (payload : Payload) (password email : String) : Attempt Committed :=
  match draftFirst surroundings payload password email with
  | .error cause => synchronizer.refuse store cause
  | .ok request =>
    match store.insert request with
    | (.error cause, store) => synchronizer.refuse store cause.onFetch
    | (.ok _, store) => synchronizer.accept store ⟨payload, request.checksum⟩ password

/-- Saves a candidate that was built from the payload committed under a checksum. -/
def trySave (synchronizer : Synchronizer) (surroundings : Surroundings) (store : Store)
    (candidate : Payload) (base : Checksum) (announce : Bool) : Attempt Committed :=
  synchronizer.submit store do
    let previous ← synchronizer.current
    if previous.checksum ≠ base then throw (.conflict (.staleCandidate base.hex))
    let password ← synchronizer.mainPassword
    synchronizer.draft surroundings previous candidate password announce

/-- Saves what is built from the committed payload and the main password. -/
def mutate (synchronizer : Synchronizer) (surroundings : Surroundings) (store : Store)
    (announce : Bool) (build : Payload → (password : String) → Except WalletError Payload) :
    Attempt Committed :=
  synchronizer.submit store do
    let previous ← synchronizer.current
    let password ← synchronizer.mainPassword
    let candidate ← build previous.payload password
    synchronizer.draft surroundings previous candidate password announce

def rewrap (synchronizer : Synchronizer) (surroundings : Surroundings) (store : Store)
    (password : String) : Attempt Committed :=
  synchronizer.submit store do
    let previous ← synchronizer.current
    synchronizer.draft surroundings previous previous.payload password false

end Synchronizer

end Coffer
