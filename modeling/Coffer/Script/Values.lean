import Coffer.Allocator
import Coffer.Config
import Coffer.Indexer
import Coffer.Json.Lenient
import Coffer.Payload.Document
import Coffer.Store
/-!
# Values in scripts

A wallet can be driven by a script of documents. The values in them are read leniently, with an
empty value for what is absent, and results are written as documents.
-/

namespace Coffer

/-- What a script is told of the first free receive index. Where the search for it does not end, the
last index of all stands for that. -/
def IndexState.firstFree (state : IndexState) : UInt32 := state.firstFree?.getD 0xffffffff

/-- What a script is told of the receive index to hand out next. -/
def Allocator.nextReceive (allocator : Allocator) (xpub : String) (scheme : Scheme) : UInt32 :=
  (allocator.state xpub scheme).firstFree

end Coffer

namespace Coffer.Script

/-- The bytes that a text writes in hexadecimal; none if it is malformed. -/
def bytesAt (json : Json) (name : String) : Bytes :=
  (Hex.decode (json.textAt name)).toOption.getD []

def scheme (json : Json) : Scheme := if json.textAt "scheme" = "bech32" then .segwit else .legacy

/-- A chain; the receive chain unless said otherwise. -/
def chain (json : Json) : Chain := if json.textAt "chain" = "change" then .change else .receive

def second (json : Json) : Option String := json.textAt? "second"

def objectAt (json : Json) (name : String) : Json := (json.member? name).getD .null

def textsAt (json : Json) (name : String) : List String :=
  (json.listAt name).map fun item => item.text?.getD ""

def balance (json : Json) : Balance := ⟨json.longAt "f", json.longAt "t", json.longAt "c"⟩

def usage (json : Json) : Usage := ⟨json.wordAt "r", json.wordAt "c"⟩

def device (json : Json) : Device := ⟨json.textAt "os_type", json.textAt "app_version"⟩

def device? (json : Json) : Option Device := (json.valueAt? "device").map device

def config (json : Json) : Config :=
  let word := fun (name : String) (absent : UInt32) => if json.has name then
    json.wordAt name else absent
  { Config.standard with
    iterations := word "pbkdf2_iterations" 1
    lookahead := word "sync_lookahead" 3
    recoveryGap := word "recovery_gap" 2
    device := if json.has "device" then device? json else some ⟨"android", "6.1.0"⟩ }

def indexerFailure? (json : Json) : Option TransportError :=
  match json.textAt "kind" with
  | "server" => some (.server (json.textAt "message"))
  | "timeout" => some .timeout
  | "cancelled" => some .cancelled
  | "batch" => some (.batchFailed (json.textAt "message"))
  | _ => none

def storeFailure (json : Json) : StoreError :=
  match json.textAt "kind" with
  | "mismatch" => .checksumMismatch
  | "timeout" => .timeout
  | "cancelled" => .cancelled
  | _ => .rejected (json.textAt "message")

def wordView (value : UInt32) : Json := .ofNat value.toNat

def longView (value : UInt64) : Json := .ofNat value.toNat

def bytesView (bytes : Bytes) : Json := .ofText (Hex.encode bytes)

def balanceView (value : Balance) : Json :=
  .array [longView value.spendable, longView value.received, longView value.transactions]

def xpubView (entry : Scheme × String) : Json := .array [entry.1.toJson, .ofText entry.2]

def deviceView (device : Device) : Json :=
  .ofMembers [("os_type", .ofText device.system), ("app_version", .ofText device.appVersion)]

def configView (config : Config) : Json := .ofMembers
  [("pbkdf2_iterations", wordView config.iterations), ("sync_lookahead", wordView config.lookahead),
    ("recovery_gap", wordView config.recoveryGap), ("device", .orNull deviceView config.device),
    ("log_level", .ofText config.logLevel), ("log_format", .ofText config.logFormat)]

def indexesView (state : IndexState) : Json := .ofMembers
  [("next_receive", wordView state.nextReceive), ("next_change", wordView state.nextChange),
    ("reserved", .ofList (fun entry => .array [wordView entry.1, .ofText entry.2])
      state.reserved.entries)]

def requestView : Request → Json
  | .balances keys => .array [.ofText "balances", .ofList .ofText keys]
  | .usage xpubs => .array [.ofText "usage", .ofList .ofText xpubs]

def recordView (record : Record) : Json := .ofMembers
  [("shared_key", .ofText record.sharedKey), ("payload", .ofText record.text),
    ("checksum", .ofText record.checksum.hex), ("email", .ofText record.email),
    ("device", .ofText record.device), ("sync", .ofList .ofText record.announced),
    ("updates", longView record.updates)]

def versionView (version : Version) : Json := .ofMembers
  [("wire", version.toJson), ("name", .ofText version.name), ("hd", .bool version.isHierarchical),
    ("latest", .bool (version == .latest)), ("scheme", (Scheme.defaultFor version).toJson),
    ("purpose", wordView (Scheme.defaultFor version).purpose)]

/-- The labels of an account and the one of the first index, if it has one. -/
def labelsView (account : Account) : Json :=
  let labels := account.addressLabels.entries.map fun entry => (entry.1, some entry.2)
  let labels := match labels with
    | (0, _) :: _ => labels
    | _ => (0, none) :: labels
  .ofList (fun entry => .array [wordView entry.1, .orNull .ofText entry.2]) labels

def accountView (account : Account) : Json := .ofMembers
  [("wire", account.toJson), ("label", .ofText account.label), ("archived", .bool account.archived),
    ("default", account.defaultScheme.toJson),
    ("default_xpub", .orNull .ofText account.defaultXpub?),
    ("receive", .ofList (.orNull xpubView) [account.receiveXpub? .legacy,
      account.receiveXpub? .segwit]),
    ("xpubs", .ofList xpubView account.xpubs), ("labels", labelsView account)]

end Coffer.Script
