import Coffer.Payload.Basic
import Coffer.Text.Quoted
/-!
# Descriptions

One line about a payload for a log: every field by name, with a mark in place of every secret, the
number of notes instead of the notes, and neither the shared key nor the digest of the second
password.
-/

namespace Coffer

namespace Description

def record (name : String) (fields : List (String × String)) : String :=
  name ++ " \x7b " ++ ", ".intercalate (fields.map fun field => field.1 ++ ": " ++ field.2) ++
    " \x7d"

def list {α : Type} (describe : α → String) (items : List α) : String :=
  "[" ++ ", ".intercalate (items.map describe) ++ "]"

def option {α : Type} (describe : α → String) : Option α → String
  | some value => "Some(" ++ describe value ++ ")"
  | none => "None"

def flag (value : Bool) : String := if value then "true" else "false"

end Description

open Description

def Secret.describe : Secret → String
  | plain _ => "Secret::Plain([REDACTED])"
  | encrypted _ => "Secret::Encrypted([REDACTED])"

def Scheme.describe : Scheme → String
  | legacy => "Legacy"
  | segwit => "SegwitBech32"

def AccountKeys.describe (keys : AccountKeys) : String :=
  record "AccountKeys" [("xpriv", Text.quoted "[REDACTED]"), ("xpub", Text.quoted keys.xpub)]

def Derivation.describe (derivation : Derivation) : String :=
  record "Derivation" [("scheme", derivation.scheme.describe), ("xpriv", derivation.xpriv.describe),
    ("xpub", Text.quoted derivation.xpub)]

def Account.describeLabels (labels : SortedMap UInt32 String) : String :=
  "\x7b" ++
    ", ".intercalate (labels.entries.map fun entry => s!"{entry.1}: " ++ Text.quoted entry.2) ++
      "\x7d"

def Account.describe (account : Account) : String :=
  record "Account" [("label", Text.quoted account.label), ("archived", flag account.archived),
    ("default_derivation", account.defaultScheme.describe),
    ("derivations", list Derivation.describe account.derivations),
    ("address_labels", describeLabels account.addressLabels)]

def Body.describe (body : Body) : String :=
  record "WalletBody" [("seed_hex", body.seed.describe), ("mnemonic_verified", flag body.verified),
    ("default_account_idx", toString body.defaultAccount),
    ("accounts", list Account.describe body.accounts)]

def ImportedAddress.describe (entry : ImportedAddress) : String :=
  record "ImportedAddress" [("address", Text.quoted entry.address),
    ("private_key", option Secret.describe entry.key), ("label", Text.quoted entry.label),
    ("archived", flag entry.archived), ("created_time", option Instant.toText entry.createdAt),
    ("created_device_name", Text.quoted entry.device),
    ("created_device_version", Text.quoted entry.appVersion)]

def Payload.describe (payload : Payload) : String :=
  "WalletPayload \x7b " ++ ", ".intercalate
    ["guid: " ++ Text.quoted payload.guid, s!"wrapper_version: V{payload.version.number}",
      "double_encryption: " ++ flag payload.doubleEncrypted,
      "options: " ++ record "WalletOptions" [("pbkdf2_iterations", toString payload.iterations)],
      "bodies: " ++ list Body.describe payload.bodies,
      "imported: " ++ list ImportedAddress.describe payload.imported,
      s!"tx_notes: {payload.notes.entries.length}", ".."] ++ " \x7d"

end Coffer
