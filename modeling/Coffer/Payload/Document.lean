import Coffer.Payload.Basic
/-!
# Payloads as documents

The fields of every record in the order of their declaration, which is the order they are written
in. What is absent where a field has a value that stands for absence is not written, and `outer`
counts the arrays and objects around a record, because secrets bound the nesting.
-/

namespace Coffer

def Scheme.ofName? (name : String) : Option Scheme :=
  if name = "legacy" then some .legacy else if name = "bech32" then some .segwit else none

def Scheme.toJson (scheme : Scheme) : Json := .ofText scheme.name

/-- The scheme of a document: its word, or an object that holds nothing but null under it. -/
def Scheme.ofJson? : Json → Option Scheme
  | .text spelling => (Json.spelledText? spelling).bind Scheme.ofName?
  | .object [(key, .null)] => (Json.spelledText? key).bind Scheme.ofName?
  | _ => none

def Version.toJson (version : Version) : Json := .ofNat version.number.toNat

def Version.ofJson? (json : Json) : Option Version :=
  (json.nat? 256).bind fun number => Version.ofNumber? (UInt8.ofNat number)

def Instant.toJson (instant : Instant) : Json := .ofText instant.toText

def Instant.ofJson? (json : Json) : Option Instant := json.text?.bind Instant.ofText?

namespace Derivation

def toJson (derivation : Derivation) : Json := .object
  [Json.member "type" derivation.scheme.toJson, Json.member "xpriv" derivation.xpriv.toJson,
    Json.member "xpub" (.ofText derivation.xpub)]

def ofJson? (outer : Nat) (json : Json) : Option Derivation := do
  match ← json.fields? ["type", "xpriv", "xpub"] with
  | [scheme, xpriv, xpub] =>
    return ⟨← Json.required Scheme.ofJson? scheme,
      ← Json.required (Secret.ofJson? (outer + 1)) xpriv,
      ← Json.required Json.text? xpub⟩
  | _ => none

end Derivation

namespace Account

def labelsToJson (labels : SortedMap UInt32 String) : Json := .object
  (labels.entries.map fun entry => (Json.decimal entry.1.toNat, .ofText entry.2))

def indexOfKey? (key : Bytes) : Option UInt32 := (Json.spelledNat? 0x100000000 key).map UInt32.ofNat

/-- The labels of a document, of which the last one for an index stays. -/
def labelsOfJson? : Json → Option (SortedMap UInt32 String)
  | .object members => do
    let entries ← members.mapM fun (key, value) => do return (← indexOfKey? key, ← value.text?)
    return .ofList entries
  | _ => none

def toJson (account : Account) : Json := .object
  [Json.member "label" (.ofText account.label), Json.member "archived" (.bool account.archived),
    Json.member "default_derivation" account.defaultScheme.toJson,
    Json.member "derivations" (.array (account.derivations.map Derivation.toJson)),
    Json.member "address_labels" (labelsToJson account.addressLabels)]

def ofJson? (outer : Nat) (json : Json) : Option Account := do
  match ← json.fields? ["label", "archived", "default_derivation", "derivations",
      "address_labels"] with
  | [label, archived, scheme, derivations, labels] =>
    return ⟨← Json.required Json.text? label, ← Json.defaulted false Json.bool? archived,
      ← Json.required Scheme.ofJson? scheme,
      ← Json.required (Json.list? (Derivation.ofJson? (outer + 2))) derivations,
      ← Json.defaulted .empty labelsOfJson? labels⟩
  | _ => none

end Account

namespace Body

def toJson (body : Body) : Json := .object
  [Json.member "seed_hex" body.seed.toJson, Json.member "mnemonic_verified" (.bool body.verified),
    Json.member "default_account_idx" (.ofNat body.defaultAccount.toNat),
    Json.member "accounts" (.array (body.accounts.map Account.toJson))]

def ofJson? (outer : Nat) (json : Json) : Option Body := do
  match ← json.fields? ["seed_hex", "mnemonic_verified", "default_account_idx", "accounts"] with
  | [seed, verified, index, accounts] =>
    return ⟨← Json.required (Secret.ofJson? (outer + 1)) seed,
      ← Json.defaulted false Json.bool? verified, ← Json.defaulted 0 Json.word64? index,
      ← Json.required (Json.list? (Account.ofJson? (outer + 2))) accounts⟩
  | _ => none

end Body

namespace ImportedAddress

def toJson (entry : ImportedAddress) : Json := .object
  ([Json.member "address" (.ofText entry.address)] ++
    (entry.key.map fun key => Json.member "priv" key.toJson).toList ++
    [Json.member "label" (.ofText entry.label), Json.member "archived" (.bool entry.archived)] ++
    (entry.createdAt.map fun time => Json.member "created_time" time.toJson).toList ++
    [Json.member "created_device_name" (.ofText entry.device),
      Json.member "created_device_version" (.ofText entry.appVersion)])

def ofJson? (outer : Nat) (json : Json) : Option ImportedAddress := do
  match ← json.fields? ["address", "priv", "label", "archived", "created_time",
      "created_device_name", "created_device_version"] with
  | [address, key, label, archived, time, device, appVersion] =>
    return ⟨← Json.required Json.text? address, ← Json.optional (Secret.ofJson? (outer + 1)) key,
      ← Json.defaulted "" Json.text? label, ← Json.defaulted false Json.bool? archived,
      ← Json.optional Instant.ofJson? time, ← Json.defaulted "" Json.text? device,
      ← Json.defaulted "" Json.text? appVersion⟩
  | _ => none

end ImportedAddress

namespace Payload

def optionsToJson (iterations : UInt32) : Json := .object
  [Json.member "pbkdf2_iterations" (.ofNat iterations.toNat)]

def optionsOfJson? (json : Json) : Option UInt32 := do
  match ← json.fields? ["pbkdf2_iterations"] with
  | [iterations] => Json.required Json.word32? iterations
  | _ => none

def notesToJson (notes : SortedMap String String) : Json := .object
  (notes.entries.map fun entry => Json.member entry.1 (.ofText entry.2))

/-- The notes of a document, of which the last one for a transaction stays. -/
def notesOfJson? : Json → Option (SortedMap String String)
  | .object members => do
    let entries ← members.mapM fun (key, value) => do
      return (← Json.spelledText? key, ← value.text?)
    return .ofList entries
  | _ => none

def toJson (payload : Payload) : Json := .object
  ([Json.member "guid" (.ofText payload.guid), Json.member "sharedKey" (.ofText payload.sharedKey),
      Json.member "wrapper_version" payload.version.toJson,
      Json.member "double_encryption" (.bool payload.doubleEncrypted)] ++
    (payload.secondHash.map fun hash => Json.member "dpasswordhash" (.ofText hash)).toList ++
    [Json.member "options" (optionsToJson payload.iterations)] ++
    (if payload.bodies.isEmpty then []
      else [Json.member "hd_wallets" (.array (payload.bodies.map Body.toJson))]) ++
    [Json.member "keys" (.array (payload.imported.map ImportedAddress.toJson))] ++
    (if payload.notes.isEmpty then [] else [Json.member "tx_notes" (notesToJson payload.notes)]))

def ofJson? (json : Json) : Option Payload := do
  match ← json.fields? ["guid", "sharedKey", "wrapper_version", "double_encryption",
      "dpasswordhash", "options", "hd_wallets", "keys", "tx_notes"] with
  | [guid, sharedKey, version, doubleEncrypted, secondHash, options, bodies, imported, notes] =>
    return ⟨← Json.required Json.text? guid, ← Json.required Json.text? sharedKey,
      ← Json.required Version.ofJson? version, ← Json.defaulted false Json.bool? doubleEncrypted,
      ← Json.optional Json.text? secondHash, ← Json.required optionsOfJson? options,
      ← Json.defaulted [] (Json.list? (Body.ofJson? 2)) bodies,
      ← Json.defaulted [] (Json.list? (ImportedAddress.ofJson? 2)) imported,
      ← Json.defaulted .empty notesOfJson? notes⟩
  | _ => none

def render (payload : Payload) : Bytes := payload.toJson.render

def read? (bytes : Bytes) : Option Payload := (Json.read? bytes).bind ofJson?

end Payload

end Coffer
