import Coffer.Json.Lenient
import Coffer.Payload.Document
/-!
# Overviews

What can be shown of a payload without any secret: of each secret only whether it is encrypted.
-/

namespace Coffer

def Account.labelsOverview (account : Account) : Json :=
  .ofList (fun entry => .array [.ofNat entry.1.toNat, .ofText entry.2])
    account.addressLabels.entries

def Account.overview (account : Account) : Json := .ofMembers
  [("label", .ofText account.label), ("archived", .bool account.archived),
    ("default", account.defaultScheme.toJson),
    ("derivations", .ofList (fun derivation =>
      .array [derivation.scheme.toJson, .ofText derivation.xpub,
        .bool derivation.xpriv.isEncrypted])
      account.derivations),
    ("address_labels", account.labelsOverview)]

def ImportedAddress.overviewMembers (entry : ImportedAddress) : List (String × Json) :=
  [("address", .ofText entry.address), ("label", .ofText entry.label),
    ("display", .ofText entry.displayLabel), ("archived", .bool entry.archived),
    ("watch_only", .bool entry.isWatchOnly),
    ("encrypted", .orNull (fun key => .bool key.isEncrypted) entry.key),
    ("device", .ofText entry.device), ("app", .ofText entry.appVersion),
    ("stamped", .bool entry.createdAt.isSome)]

def ImportedAddress.overview (entry : ImportedAddress) : Json := .ofMembers entry.overviewMembers

namespace Payload

def isConsistent (payload : Payload) : Bool := payload.checkEncryption.toBool

/-- The members of a payload without its secrets and its identity. -/
def overviewMembers (payload : Payload) : List (String × Json) :=
  [("version", .ofText payload.version.name), ("double", .bool payload.doubleEncrypted),
    ("iterations", .ofNat payload.iterations.toNat), ("consistent", .bool payload.isConsistent),
    ("default_account", .ofNat payload.defaultAccount.toNat),
    ("verified", .bool payload.isVerified), ("accounts", .ofList Account.overview payload.accounts),
    ("imported", .ofList ImportedAddress.overview payload.imported),
    ("notes", .ofList (fun entry => .array [.ofText entry.1, .ofText entry.2])
      payload.notes.entries)]

def overview (payload : Payload) : Json := .ofMembers payload.overviewMembers

end Payload

end Coffer
