import Coffer.Body
import Coffer.Imported
/-!
# Payloads

The state of a wallet. A payload is never changed: every operation makes a new one, which becomes
the state of the wallet once it is stored.
-/

namespace Coffer

structure Payload where
  guid : String
  /-- Known to the owner and the server, and part of the key of every encrypted secret. -/
  sharedKey : String
  version : Version
  doubleEncrypted : Bool
  secondHash : Option String
  iterations : UInt32
  bodies : List Body
  imported : List ImportedAddress
  notes : SortedMap String String
  deriving DecidableEq

namespace Payload

def flat (guid sharedKey : String) (iterations : UInt32) : Payload :=
  ⟨guid, sharedKey, .v2, false, none, iterations, [], [], .empty⟩

def hierarchical (source : KeySource) (guid sharedKey label : String) (entropy : Bytes)
    (iterations : UInt32) : Except WalletError Payload := do
  liftError .validation (requireText label "account label")
  let body ← Body.ofEntropy source none entropy label .legacy
  return { flat guid sharedKey iterations with version := .v3, bodies := [body] }

def body? (payload : Payload) : Option Body := payload.bodies.head?

def accounts (payload : Payload) : List Account := (payload.body?.map Body.accounts).getD []

def requireBody (payload : Payload) : Except ValidationError Body :=
  match payload.body? with
  | some body => .ok body
  | none => .error (.wrongVersion payload.version.number Version.v3.number)

def account (payload : Payload) (index : UInt64) : Except ValidationError Account := do
  let body ← payload.requireBody
  match body.account? index with
  | some account => return account
  | none => throw (.accountNotFound index)

def defaultAccount (payload : Payload) : UInt64 := (payload.body?.map Body.defaultAccount).getD 0

def isVerified (payload : Payload) : Bool := (payload.body?.map Body.verified).getD false

def activeAccounts (payload : Payload) : List (Account × Nat) :=
  payload.accounts.zipIdx.filter fun entry => !entry.1.archived

def imported? (payload : Payload) (address : String) : Option ImportedAddress :=
  payload.imported.find? fun entry => entry.address = address

def activeImported (payload : Payload) : List ImportedAddress :=
  payload.imported.filter fun entry => !entry.archived

def labelOfXpub? (payload : Payload) (xpub : String) : Option String := do
  let body ← payload.body?
  let account ← body.accounts.find? fun account => account.owns xpub
  return account.label

def needsAccounts (payload : Payload) : Bool := payload.version.number < Version.v3.number

def needsSegwit (payload : Payload) : Bool := payload.version == .v3

/-- Every secret of the wallet: bodies first, then imported keys. -/
def secrets (payload : Payload) : List Secret :=
  payload.bodies.flatMap Body.secrets ++ payload.imported.filterMap ImportedAddress.key

def mapSecrets (change : Secret → Except WalletError Secret) (payload : Payload) :
    Except WalletError Payload := do
  let bodies ← payload.bodies.mapM (Body.mapSecrets change)
  let imported ← payload.imported.mapM (ImportedAddress.mapSecret change)
  return { payload with bodies, imported }

/-- Either every secret is encrypted or none is, and a second password can be told from a wrong
one. -/
def checkEncryption (payload : Payload) : Except ValidationError Unit :=
  if payload.secrets.any fun secret => secret.isEncrypted != payload.doubleEncrypted then
    if payload.doubleEncrypted then
      .error (.corruptedPayload "plaintext secret in double-encrypted payload")
    else .error (.corruptedPayload "encrypted secret in plaintext payload")
  else if payload.doubleEncrypted && payload.secondHash.isNone && payload.secrets.isEmpty then
    .error (.corruptedPayload "double encryption enabled without a reference field")
  else .ok ()

def firstDuplicate? (seen : List String) : List ImportedAddress → Option String
  | [] => none
  | entry :: later =>
    if entry.address ∈ seen then
      some entry.address else firstDuplicate? (entry.address :: seen) later

def checkBodies (payload : Payload) : Except ValidationError Unit :=
  match payload.version.isHierarchical, payload.bodies with
  | true, [body] => body.check
  | false, [] => .ok ()
  | hierarchical, bodies =>
    let kind := if hierarchical then "HD" else "flat-key"
    .error (.corruptedPayload s!"{kind} payload with {bodies.length} wallet bodies")

/-- What a payload has to be before it is stored and after it is read. -/
def validate (payload : Payload) : Except ValidationError Unit :=
  if payload.guid.isEmpty || payload.sharedKey.isEmpty then .error .uninitialized
  else if payload.iterations = 0 then
    .error (.corruptedPayload "pbkdf2 iterations must be positive")
  else match payload.checkBodies with
    | .error cause => .error cause
    | .ok _ =>
      match firstDuplicate? [] payload.imported with
      | some address => .error (.duplicateAddress address)
      | none => payload.checkEncryption

def checkSucceeds (payload previous : Payload) : Except ValidationError Unit :=
  if payload.version.number < previous.version.number then
    .error (.versionDowngrade previous.version.number payload.version.number)
  else if payload.guid ≠ previous.guid then
    .error (.corruptedPayload "wallet identifier changed")
  else .ok ()

end Payload

end Coffer
