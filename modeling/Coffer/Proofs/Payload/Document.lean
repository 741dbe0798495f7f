import Coffer.Payload.Document
import Coffer.Proofs.Instant
import Coffer.Proofs.Json.Record
import Coffer.Proofs.SortedMap
/-!
# Payloads that are written can be read

Every record of a payload names its fields once, so that one lemma on records serves all of them.
From the innermost record outwards, reading gives back what was written, whatever the fields hold:
the payload need not be valid.
-/

namespace Coffer

open Json (written)

@[simp] theorem Scheme.ofJson?_toJson (scheme : Scheme) :
    Scheme.ofJson? scheme.toJson = some scheme := by
  rw [toJson, Json.ofText, ofJson?, Json.spelledText?_escape, Option.bind_some]
  cases scheme <;> rfl

@[simp] theorem Version.ofJson?_toJson (version : Version) :
    ofJson? version.toJson = some version := by
  rw [toJson, ofJson?, Json.nat?_ofNat version.number.toNat_lt, Option.bind_some, UInt8.ofNat_toNat,
    ofNumber?_number]

@[simp] theorem Instant.ofJson?_toJson (instant : Instant) :
    ofJson? instant.toJson = some instant := by
  rw [toJson, ofJson?, Json.text?_ofText, Option.bind_some, ofText?_toText]

theorem Secret.ofJson?_toJson {outer : Nat} (shallow : outer < depthLimit) (secret : Secret) :
    ofJson? outer secret.toJson = some secret := by
  cases secret with
  | plain text =>
    rw [toJson, Json.ofText, ofJson?, Json.spelledText?_escape, Option.map_some]
  | encrypted field =>
    have room : (outer + (Json.object [Json.member "encrypted" (.ofText field)]).depth ≤
        depthLimit && membersAreUsable [Json.member "encrypted" (.ofText field)]) = true := by
      simp [Json.depth, Json.depthMembers, Json.member, Json.ofText, membersAreUsable, isUsable]
      omega
    have keyed : Json.keyed? [Json.member "encrypted" (.ofText field)] =
        some [("encrypted", .ofText field)] :=
      Json.keyed?_map_member [("encrypted", .ofText field)]
    have found : Json.field? "encrypted" [("encrypted", Json.ofText field)] =
      some (some (.ofText field)) := rfl
    rw [toJson, ofJson?, if_pos room, keyed]
    simp only [Option.bind_eq_bind, Option.bind_some, found, Json.required, Json.text?_ofText,
      Option.map_some]

theorem Secret.toJson_ne_null (secret : Secret) : secret.toJson ≠ .null := by
  cases secret <;> exact Json.noConfusion

theorem Secret.legible_toJson (secret : Secret) : secret.toJson.Legible := by
  cases secret with
  | plain text => exact Json.legible_ofText text
  | encrypted field =>
    exact Json.legible_written [("encrypted", some (.ofText field))] (by simp [Json.legible_ofText])

section

variable {κ : Type} [LT κ] (map : SortedMap κ String) {spell : κ → Bytes}

theorem mapM_entries {read : Bytes → Option κ} (readBack : ∀ key, read (spell key) = some key) :
    (map.entries.map fun entry => (spell entry.1, Json.ofText entry.2)).mapM
      (fun (key, value) => do return (← read key, ← value.text?)) = some map.entries := by
  have found : (map.entries.map fun entry => (spell entry.1, Json.ofText entry.2)).mapM
      (fun (key, value) => do return (← read key, ← value.text?)) = some (map.entries.map id) :=
    Json.mapM_eq_some fun entry _ => by simp [readBack]
  rw [found, List.map_id]

theorem legible_entries (spelled : ∀ key, Json.IsSpelling (spell key)) :
    (Json.object (map.entries.map fun entry => (spell entry.1, Json.ofText entry.2))).Legible := by
  refine .object ?_ ?_
  · intro member isIn
    obtain ⟨entry, _, rfl⟩ := List.mem_map.mp isIn
    exact spelled entry.1
  · intro member isIn
    obtain ⟨entry, _, rfl⟩ := List.mem_map.mp isIn
    exact Json.legible_ofText entry.2

end

namespace Derivation

/-- The fields of a derivation. -/
def fields (derivation : Derivation) : List (String × Option Json) :=
  [("type", some derivation.scheme.toJson), ("xpriv", some derivation.xpriv.toJson),
    ("xpub", some (.ofText derivation.xpub))]

theorem toJson_eq (derivation : Derivation) :
    derivation.toJson = .object (written derivation.fields) := rfl

theorem ofJson?_toJson {outer : Nat} (shallow : outer + 1 < Secret.depthLimit)
    (derivation : Derivation) : ofJson? outer derivation.toJson = some derivation := by
  have found :=
    Json.fields?_written derivation.fields (show ["type", "xpriv", "xpub"].Nodup by decide)
  simp only [fields, List.map_cons, List.map_nil] at found
  simp only [toJson_eq, ofJson?, fields, found, Option.bind_eq_bind, Option.bind_some,
    Json.required, Scheme.ofJson?_toJson, Secret.ofJson?_toJson shallow, Json.text?_ofText]
  rfl

theorem legible_toJson (derivation : Derivation) : derivation.toJson.Legible :=
  Json.legible_written derivation.fields
    (by simp [fields, Scheme.toJson, Secret.legible_toJson, Json.legible_ofText])

end Derivation

namespace Account

theorem indexOfKey?_decimal (index : UInt32) :
    indexOfKey? (Json.decimal index.toNat) = some index := by
  rw [indexOfKey?, Json.spelledNat?_decimal index.toNat_lt, Option.map_some, UInt32.ofNat_toNat]

theorem labelsOfJson?_toJson (labels : SortedMap UInt32 String) :
    labelsOfJson? (labelsToJson labels) = some labels := by
  rw [labelsToJson, labelsOfJson?, mapM_entries labels indexOfKey?_decimal]
  exact congrArg some labels.ofList_entries

theorem legible_labelsToJson (labels : SortedMap UInt32 String) : (labelsToJson labels).Legible :=
  legible_entries labels fun index => Json.isSpelling_decimal index.toNat

/-- The fields of an account. -/
def fields (account : Account) : List (String × Option Json) :=
  [("label", some (.ofText account.label)), ("archived", some (.bool account.archived)),
    ("default_derivation", some account.defaultScheme.toJson),
    ("derivations", some (.array (account.derivations.map Derivation.toJson))),
    ("address_labels", some (labelsToJson account.addressLabels))]

theorem toJson_eq (account : Account) : account.toJson = .object (written account.fields) := rfl

theorem ofJson?_toJson {outer : Nat} (shallow : outer + 3 < Secret.depthLimit) (account : Account) :
    ofJson? outer account.toJson = some account := by
  have found := Json.fields?_written account.fields
    (show ["label", "archived", "default_derivation", "derivations",
      "address_labels"].Nodup by decide)
  have derivations : Json.list? (Derivation.ofJson? (outer + 2))
      (.array (account.derivations.map Derivation.toJson)) =
      some account.derivations :=
    Json.list?_map fun derivation _ => derivation.ofJson?_toJson shallow
  simp only [fields, List.map_cons, List.map_nil] at found
  simp only [toJson_eq, ofJson?, fields, found, Option.bind_eq_bind, Option.bind_some,
    Json.required, Json.defaulted, Json.bool?, Scheme.ofJson?_toJson, Json.text?_ofText,
    derivations, labelsOfJson?_toJson]
  rfl

theorem legible_toJson (account : Account) : account.toJson.Legible := by
  have derivations := Json.legible_array_map account.derivations Derivation.legible_toJson
  exact Json.legible_written account.fields
    (by simp [fields, Scheme.toJson, Json.legible_ofText, Json.Legible.bool, derivations,
      legible_labelsToJson])

end Account

namespace Body

/-- The fields of a body. -/
def fields (body : Body) : List (String × Option Json) :=
  [("seed_hex", some body.seed.toJson), ("mnemonic_verified", some (.bool body.verified)),
    ("default_account_idx", some (.ofNat body.defaultAccount.toNat)),
    ("accounts", some (.array (body.accounts.map Account.toJson)))]

theorem toJson_eq (body : Body) : body.toJson = .object (written body.fields) := rfl

theorem ofJson?_toJson {outer : Nat} (shallow : outer + 5 < Secret.depthLimit) (body : Body) :
    ofJson? outer body.toJson = some body := by
  have found := Json.fields?_written body.fields
    (show ["seed_hex", "mnemonic_verified", "default_account_idx", "accounts"].Nodup by decide)
  have seed : Secret.ofJson? (outer + 1) body.seed.toJson = some body.seed :=
    Secret.ofJson?_toJson (by omega) body.seed
  have accounts : Json.list? (Account.ofJson? (outer + 2))
      (.array (body.accounts.map Account.toJson)) = some body.accounts :=
    Json.list?_map fun account _ => account.ofJson?_toJson shallow
  simp only [fields, List.map_cons, List.map_nil] at found
  simp only [toJson_eq, ofJson?, fields, found, Option.bind_eq_bind, Option.bind_some,
    Json.required, Json.defaulted, Json.bool?, seed, Json.word64?_ofNat, accounts]
  rfl

theorem legible_toJson (body : Body) : body.toJson.Legible := by
  have accounts := Json.legible_array_map body.accounts Account.legible_toJson
  exact Json.legible_written body.fields
    (by simp [fields, Secret.legible_toJson, Json.Legible.bool, Json.Legible.number, accounts])

end Body

namespace ImportedAddress

/-- The fields of an imported address. -/
def fields (entry : ImportedAddress) : List (String × Option Json) :=
  [("address", some (.ofText entry.address)), ("priv", entry.key.map Secret.toJson),
    ("label", some (.ofText entry.label)), ("archived", some (.bool entry.archived)),
    ("created_time", entry.createdAt.map Instant.toJson),
    ("created_device_name", some (.ofText entry.device)),
    ("created_device_version", some (.ofText entry.appVersion))]

theorem toJson_eq (entry : ImportedAddress) : entry.toJson = .object (written entry.fields) := by
  obtain ⟨address, key, label, archived, time, device, appVersion⟩ := entry
  cases key <;> cases time <;> rfl

theorem ofJson?_toJson {outer : Nat} (shallow : outer + 1 < Secret.depthLimit)
    (entry : ImportedAddress) : ofJson? outer entry.toJson = some entry := by
  have found := Json.fields?_written entry.fields
    (show ["address", "priv", "label", "archived", "created_time", "created_device_name",
      "created_device_version"].Nodup by decide)
  have key : Json.optional (Secret.ofJson? (outer + 1)) (entry.key.map Secret.toJson) =
      some entry.key :=
    Json.optional_map entry.key Secret.toJson_ne_null fun key => key.ofJson?_toJson shallow
  have time : Json.optional Instant.ofJson? (entry.createdAt.map Instant.toJson) =
      some entry.createdAt :=
    Json.optional_map entry.createdAt (fun _ => Json.noConfusion) Instant.ofJson?_toJson
  simp only [fields, List.map_cons, List.map_nil] at found
  simp only [toJson_eq, ofJson?, fields, found, Option.bind_eq_bind, Option.bind_some,
    Json.required, Json.defaulted, Json.bool?, Json.text?_ofText, key, time]
  rfl

theorem legible_toJson (entry : ImportedAddress) : entry.toJson.Legible := by
  rw [toJson_eq]
  exact Json.legible_written entry.fields
    (by simp [fields, Json.legible_ofText, Json.Legible.bool, Secret.legible_toJson,
      Instant.toJson])

end ImportedAddress

namespace Payload

theorem optionsOfJson?_toJson (iterations : UInt32) :
    optionsOfJson? (optionsToJson iterations) = some iterations := by
  have found := Json.fields?_written [("pbkdf2_iterations", some (.ofNat iterations.toNat))]
    (show ["pbkdf2_iterations"].Nodup by decide)
  simp only [List.map_cons, List.map_nil] at found
  have written_eq : optionsToJson iterations =
      .object (written [("pbkdf2_iterations", some (.ofNat iterations.toNat))]) := rfl
  simp only [written_eq, optionsOfJson?, found, Option.bind_eq_bind, Option.bind_some,
    Json.required, Json.word32?_ofNat]

theorem legible_optionsToJson (iterations : UInt32) : (optionsToJson iterations).Legible :=
  Json.legible_written [("pbkdf2_iterations", some (.ofNat iterations.toNat))]
    (by simp [Json.Legible.number])

theorem notesOfJson?_toJson (notes : SortedMap String String) :
    notesOfJson? (notesToJson notes) = some notes := by
  have members : notesToJson notes =
      .object (notes.entries.map fun entry => (Json.escape entry.1, .ofText entry.2)) := rfl
  rw [members, notesOfJson?, mapM_entries notes Json.spelledText?_escape]
  exact congrArg some notes.ofList_entries

theorem legible_notesToJson (notes : SortedMap String String) : (notesToJson notes).Legible :=
  legible_entries notes Json.isSpelling_escape

/-- The bodies that are written: none where the wallet has none. -/
def writtenBodies (bodies : List Body) : Option Json :=
  if bodies.isEmpty then none else some (.array (bodies.map Body.toJson))

/-- The notes that are written: none where the wallet has none. -/
def writtenNotes (notes : SortedMap String String) : Option Json :=
  if notes.isEmpty then none else some (notesToJson notes)

/-- The fields of a payload. -/
def fields (payload : Payload) : List (String × Option Json) :=
  [("guid", some (.ofText payload.guid)), ("sharedKey", some (.ofText payload.sharedKey)),
    ("wrapper_version", some payload.version.toJson),
    ("double_encryption", some (.bool payload.doubleEncrypted)),
    ("dpasswordhash", payload.secondHash.map .ofText),
    ("options", some (optionsToJson payload.iterations)),
    ("hd_wallets", writtenBodies payload.bodies),
    ("keys", some (.array (payload.imported.map ImportedAddress.toJson))),
    ("tx_notes", writtenNotes payload.notes)]

theorem toJson_eq (payload : Payload) : payload.toJson = .object (written payload.fields) := by
  obtain ⟨guid, sharedKey, version, doubleEncrypted, secondHash, iterations, bodies, imported,
    notes⟩ := payload
  cases secondHash <;> cases bodies <;> cases empty : notes.isEmpty <;>
    simp [toJson, fields, written, Json.present, writtenBodies, writtenNotes, empty]

theorem defaulted_writtenBodies (bodies : List Body) :
    Json.defaulted [] (Json.list? (Body.ofJson? 2)) (writtenBodies bodies) = some bodies := by
  cases bodies with
  | nil => rfl
  | cons first others =>
    have all : Json.list? (Body.ofJson? 2) (.array ((first :: others).map Body.toJson)) =
        some (first :: others) :=
      Json.list?_map fun body _ => body.ofJson?_toJson (by decide)
    exact all

theorem defaulted_writtenNotes (notes : SortedMap String String) :
    Json.defaulted .empty notesOfJson? (writtenNotes notes) = some notes := by
  unfold writtenNotes
  split
  · rename_i empty
    exact congrArg some (SortedMap.ext (List.isEmpty_iff.mp empty).symm)
  · exact notesOfJson?_toJson notes

theorem ofJson?_toJson (payload : Payload) : ofJson? payload.toJson = some payload := by
  have found := Json.fields?_written payload.fields
    (show ["guid", "sharedKey", "wrapper_version", "double_encryption", "dpasswordhash",
      "options", "hd_wallets", "keys", "tx_notes"].Nodup by decide)
  have secondHash : Json.optional Json.text? (payload.secondHash.map .ofText) =
      some payload.secondHash :=
    Json.optional_map payload.secondHash (fun _ => Json.noConfusion) Json.text?_ofText
  have imported : Json.list? (ImportedAddress.ofJson? 2)
      (.array (payload.imported.map ImportedAddress.toJson)) =
      some payload.imported :=
    Json.list?_map fun entry _ => entry.ofJson?_toJson (by decide)
  simp only [fields, List.map_cons, List.map_nil] at found
  simp only [toJson_eq, ofJson?, fields, found, Option.bind_eq_bind, Option.bind_some,
    Json.required, Json.text?_ofText, Version.ofJson?_toJson, secondHash, optionsOfJson?_toJson,
    defaulted_writtenBodies, defaulted_writtenNotes]
  simp only [Json.defaulted, Json.bool?, imported, Option.bind_some]
  rfl

theorem legible_toJson (payload : Payload) : payload.toJson.Legible := by
  have bodies := Json.legible_array_map payload.bodies Body.legible_toJson
  have imported := Json.legible_array_map payload.imported ImportedAddress.legible_toJson
  rw [toJson_eq]
  exact Json.legible_written payload.fields
    (by simp [fields, Json.legible_ofText, Json.Legible.bool, Json.Legible.number, Version.toJson,
      legible_optionsToJson, writtenBodies, bodies, imported, writtenNotes, legible_notesToJson])

theorem read?_render (payload : Payload) : read? payload.render = some payload := by
  rw [read?, render, Json.read?_render payload.legible_toJson, Option.bind_some, ofJson?_toJson]

end Payload

end Coffer
