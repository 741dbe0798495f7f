import Coffer.Checksum
import Coffer.Error
import Coffer.SortedMap
import Coffer.Text.Blank
import Coffer.Text.LowerCase
/-!
# Stores

A store keeps one record for each wallet and replaces it only for a writer that names the checksum
of what it replaces. Stores are values: every request makes a new one, also a request that fails,
because a failure that was arranged beforehand is used up by it.
-/

namespace Coffer

inductive StoreError where
  /-- What is stored is not what the writer means to replace. -/
  | checksumMismatch
  | rejected (message : String)
  | timeout
  | cancelled
  deriving DecidableEq, Repr

def unknownMark : String := "Unknown Wallet Identifier"

/-- Part of the message for a wallet that is locked, in lower case. -/
def lockedMark : String := "locked"

def occursIn (part : List Char) : List Char → Bool
  | [] => part.isEmpty
  | c :: rest => part.isPrefixOf (c :: rest) || occursIn part rest

def classify (message : String) : WalletError :=
  if occursIn unknownMark.toList message.toList then .credential .invalidCredentials
  else if occursIn lockedMark.toList (Text.lower message.toList) then
    .credential (.accountLocked message)
  else .transport (.server message)

namespace StoreError

def message : StoreError → String
  | checksumMismatch => "checksum mismatch"
  | rejected message => s!"rejected: {message}"
  | timeout => "timeout"
  | cancelled => "cancelled"

def onFetch : StoreError → WalletError
  | rejected message => classify message
  | timeout => .transport .timeout
  | cancelled => .transport .cancelled
  | checksumMismatch => .transport (.server "unexpected checksum mismatch on fetch")

/-- The failure of a request that expects a checksum to be stored. -/
def onWrite (expected : Checksum) : StoreError → WalletError
  | checksumMismatch => .conflict (.checksumMismatch expected.hex)
  | cause => cause.onFetch

end StoreError

structure InsertRequest where
  guid : String
  sharedKey : String
  text : String
  checksum : Checksum
  email : String
  device : String
  deriving DecidableEq, Repr

/-- The replacement of what is stored. -/
structure UpdateRequest where
  guid : String
  sharedKey : String
  announced : List String
  text : String
  newChecksum : Checksum
  oldChecksum : Checksum
  device : String
  deriving DecidableEq, Repr

structure Record where
  sharedKey : String
  text : String
  checksum : Checksum
  email : String
  device : String
  announced : List String
  updates : UInt64
  deriving DecidableEq, Repr

structure Store where
  records : SortedMap String Record
  locked : List String
  failure : Option StoreError
  deriving DecidableEq

namespace Store

def empty : Store := ⟨.empty, [], none⟩

def record? (store : Store) (guid : String) : Option Record := store.records.find? guid

def unknown : StoreError := .rejected (unknownMark ++ ". Please check your credentials.")

/-- Answers a request: an arranged failure is used up, and otherwise the request is carried out. -/
def answer {α : Type} (store : Store) (carryOut : Store → Except StoreError (α × Store)) :
    Except StoreError α × Store :=
  match store.failure with
  | some cause => (.error cause, { store with failure := none })
  | none =>
    match carryOut store with
    | .ok (value, next) => (.ok value, next)
    | .error cause => (.error cause, store)

def fetch (store : Store) (guid sharedKey : String) : Except StoreError String × Store :=
  store.answer fun store =>
    if guid ∈ store.locked then .error (.rejected "Wallet access locked after failed attempts")
    else match store.record? guid with
      | none => .error unknown
      | some record => if record.sharedKey = sharedKey then
        .ok (record.text, store) else .error unknown

def insert (store : Store) (request : InsertRequest) : Except StoreError Unit × Store :=
  store.answer fun store =>
    match store.record? request.guid with
    | some _ => .error (.rejected "Wallet identifier already exists")
    | none =>
      let record : Record :=
        ⟨request.sharedKey, request.text, request.checksum, request.email, request.device, [], 0⟩
      .ok ((), { store with records := store.records.insert request.guid record })

def update (store : Store) (request : UpdateRequest) : Except StoreError Unit × Store :=
  store.answer fun store =>
    match store.record? request.guid with
    | none => .error unknown
    | some record =>
      if record.sharedKey ≠ request.sharedKey then .error unknown
      else if record.checksum ≠ request.oldChecksum then .error .checksumMismatch
      else
        let next : Record :=
          { record with
            text := request.text
            checksum := request.newChecksum
            device := request.device
            announced := request.announced
            updates := record.updates + 1 }
        .ok ((), { store with records := store.records.insert request.guid next })

/-- Replaces a stored text without asking for a checksum; tells whether there was one. -/
def overwrite (store : Store) (guid text : String) : Bool × Store :=
  match store.record? guid with
  | none => (false, store)
  | some record =>
    let next := { record with text, checksum := .ofText text, updates := record.updates + 1 }
    (true, { store with records := store.records.insert guid next })

def failNext (store : Store) (cause : StoreError) : Store := { store with failure := some cause }

def setLocked (store : Store) (guid : String) (isLocked : Bool) : Store :=
  let others := store.locked.filter (· ≠ guid)
  { store with locked := if isLocked then guid :: others else others }

end Store

end Coffer
