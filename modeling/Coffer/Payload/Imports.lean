import Coffer.Payload.SecondPassword
import Coffer.Services
/-!
# Changes of imported addresses and notes
-/

namespace Coffer.Payload

/-- Entries with another one in place of the first of its address, or behind them. -/
def putEntry (entry : ImportedAddress) : List ImportedAddress → List ImportedAddress
  | [] => [entry]
  | other :: later => if other.address = entry.address then
  entry :: later else other :: putEntry entry later

/-- The payload with an imported entry in place of the one of its address. -/
def withEntry (payload : Payload) (entry : ImportedAddress) : Payload :=
  { payload with imported := putEntry entry payload.imported }

/-- The imported entry of an address, where an operation needs it. -/
def requireEntry (payload : Payload) (address : String) : Except WalletError ImportedAddress :=
  match payload.imported? address with
  | some entry => .ok entry
  | none => .error (.validation (.addressNotFound address))

/-- Adds an imported address that the wallet does not have yet. -/
def addImported (payload : Payload) (entry : ImportedAddress) : Except WalletError Payload := do
  liftError .validation (requireText entry.address "address")
  if (payload.imported? entry.address).isSome then
    throw (.validation (.duplicateAddress entry.address))
  return payload.withEntry entry

/-- The entry that an imported key leads to: the watched one of its address with the key attached,
or a new one. -/
def entryOfKey (payload : Payload) (address : String) (key : Secret) (device : Device)
    (now : Instant) : Except WalletError ImportedAddress :=
  match payload.imported? address with
  | none => .ok (.withKey address key device now)
  | some existing =>
    if existing.isWatchOnly then .ok (existing.attachKey key device now)
    else .error (.validation (.duplicateAddress address))

def importKey (payload : Payload) (services : Services) (wif : String) (label : Option String)
    (device : Device) (second : Option String) :
    Except WalletError (Payload × ImportedAddress) := do
  let address ← liftError .derivation (services.keys.addressForKey wif .legacy)
  let fields ← payload.fieldCipher services.cipher services.seed second
  let key ← Secret.protect fields wif
  let entry ← payload.entryOfKey address key device services.now
  let entry := match label with
    | some label => { entry with label }
    | none => entry
  return (payload.withEntry entry, entry)

def archiveImported (payload : Payload) (address : String) (archived : Bool) :
    Except WalletError Payload := do
  let entry ← payload.requireEntry address
  return payload.withEntry { entry with archived }

def labelImported (payload : Payload) (address label : String) : Except WalletError Payload := do
  let entry ← payload.requireEntry address
  return payload.withEntry { entry with label }

/-- Sets the note of a transaction; an empty one is removed. -/
def setNote (payload : Payload) (transaction note : String) : Except WalletError Payload := do
  liftError .validation (requireText transaction "transaction hash")
  let notes :=
    if note.isEmpty then payload.notes.erase transaction else payload.notes.insert transaction note
  return { payload with notes }

end Coffer.Payload
