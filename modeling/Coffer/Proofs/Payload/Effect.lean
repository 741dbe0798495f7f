import Coffer.Payload.Transition
import Coffer.Proofs.Payload.Accounts
import Coffer.Proofs.Payload.Imports
import Coffer.Proofs.Payload.SecondPassword
/-!
# What a change does to a wallet

Fifteen changes do eleven different things to a payload. Nine of them leave every secret as it is
stored, the other two are setting and dropping a second password. Each is said once, with everything
that the change has checked on the way, and every law of changes is a case analysis of what was
done.
-/

namespace Coffer

/-! ## Second passwords of a change -/

namespace Transition

/-- The second password that a change is given, where it asks for one. -/
def given? : Transition → Option (Option String)
  | addAccount _ second | upgradeToAccounts _ _ second | upgradeToSegwit second => some second
  | importKey _ _ _ second => some second
  | unsetSecond second => some (some second)
  | _ => none

/-- On a wallet with a second password, a change that asks for it is given `held`. -/
def Fits (transition : Transition) (payload : Payload) (held : Option String) : Prop :=
  payload.doubleEncrypted = true → ∀ second, transition.given? = some second → second = held

def labels : Transition → Bool
  | labelAddress .. => true
  | _ => false

def addsSegwit : Transition → Bool
  | upgradeToSegwit _ => true
  | _ => false

/-- Whether a change edits a wallet, and neither sets nor drops its second password. -/
def Edits : Transition → Prop
  | setSecond _ | unsetSecond _ => False
  | _ => True

/-- The second password of a wallet after a change. -/
def leaves (held : Option String) : Transition → Option String
  | setSecond second => some second
  | unsetSecond _ => none
  | _ => held

end Transition

/-! ## Effects -/

/-- What a change made of a payload whose second password is `held`, where every secret stays as it
is stored. -/
inductive Edit (services : Services) (payload : Payload) (held : Option String)
    (transition : Transition) : Payload → Prop
  /-- One account has another label or mark, or one more reserved index, if that is the change. The
  default account stays in use. -/
  | account {body : Body} {index : UInt64} {old new : Account} (isBody : payload.body? = some body)
      (isOld : body.accounts[index.toNat]? = some old) (derivations : new.derivations =
        old.derivations)
      (defaultScheme : new.defaultScheme = old.defaultScheme)
      (labels : ∀ reserved label, old.addressLabels.find? reserved = some label →
        new.addressLabels.find? reserved = some label)
      (inUse : new.archived = true → old.archived = true ∨ index ≠ body.defaultAccount)
      (relabelled : new.addressLabels = old.addressLabels ∨ transition.labels = true) :
      Edit services payload held transition
        (payload.withBody { body with accounts := body.accounts.set index.toNat new })
  /-- The body has another mark, or another account in use is the default one. -/
  | body {body : Body} (isBody : payload.body? = some body) (verified : Bool)
      (defaultAccount : UInt64) (inUse : defaultAccount = body.defaultAccount ∨
        ∃ account, body.accounts[defaultAccount.toNat]? = some account ∧ account.archived = false) :
      Edit services payload held transition
        (payload.withBody { body with verified, defaultAccount })
  /-- One account more, with the keys of its position under every scheme of the version. -/
  | added {body : Body} {seed : Bytes} {number : UInt32} {account : Account}
      (isBody : payload.body? = some body)
      (revealed : body.revealSeed (payload.access services.cipher services.seed held) = .ok seed)
      (isNumber : Payload.accountNumber? body.accounts.length = some number)
      (schemes : account.derivations.map Derivation.scheme = Scheme.allFor payload.version)
      (defaultScheme : account.defaultScheme = Scheme.defaultFor payload.version)
      (each : ∀ derivation ∈ account.derivations, Payload.derive services
        (payload.access services.cipher services.seed held) seed number derivation.scheme =
          .ok derivation)
      (unlabelled : account.addressLabels = .empty) :
      Edit services payload held transition
        (payload.withBody { body with accounts := body.accounts ++ [account] })
  | watched {entry : ImportedAddress} (isChange : transition = .addImported entry)
      (isNew : payload.imported? entry.address = none) :
      Edit services payload held transition (payload.withEntry entry)
  | entry {old new : ImportedAddress} (isThere : payload.imported? new.address = some old)
      (sameKey : new.key = old.key) : Edit services payload held transition (payload.withEntry new)
  /-- An imported address, new or only watched so far, has a key. -/
  | imported {entry : ImportedAddress} {wif : String} {key : Secret}
      (isAddress : services.keys.addressForKey wif .legacy = .ok entry.address)
      (made : Secret.protect (payload.access services.cipher services.seed held) wif = .ok key)
      (hasKey : entry.key = some key)
      (noKey : ∀ existing, payload.imported? entry.address = some existing → existing.key = none) :
      Edit services payload held transition (payload.withEntry entry)
  | notes (notes : SortedMap String String) : Edit services payload held transition
    { payload with notes }
  | rooted {entropy : Bytes} {label : String} {second : Option String} {body : Body}
      (isChange : transition = .upgradeToAccounts entropy label second)
      (needed : payload.needsAccounts = true)
        (made : Body.ofEntropy services.keys
        (payload.access services.cipher services.seed held) entropy label
        .legacy = .ok body) :
      Edit services payload held transition { payload with bodies := [body], version := .v3 }
  | segwit {bodies : List Body} (isOld : payload.version = .v3)
      (upgraded : payload.bodies.mapM
        (Payload.upgradeBody services (payload.access services.cipher services.seed held)) =
          .ok bodies)
      (isChange : transition.addsSegwit = true) :
      Edit services payload held transition { payload with bodies, version := .v4 }

/-- What a successful change made of a payload whose second password is `held`: the next payload,
its second password, and what became of each secret that was there. -/
inductive Effect (services : Services) (payload : Payload) (held : Option String)
    (transition : Transition) : Payload → Option String → (Secret → Secret) → Prop
  | edited {next : Payload} (edit : Edit services payload held transition next) :
      Effect services payload held transition next held id
  | locked {second : String} (wasPlain : payload.doubleEncrypted = false)
      (consistent : payload.checkEncryption = .ok ())
      (locks : ∀ secret ∈ payload.secrets,
        ((payload.fieldsOf services.cipher services.seed second).lock secret).isOk = true) :
      Effect services payload held transition
        (payload.recast (Secret.settle (payload.fieldsOf services.cipher services.seed second).lock)
          true (some (payload.hashOf second)))
        (some second) (Secret.settle (payload.fieldsOf services.cipher services.seed second).lock)
  | unlocked {second : String} (isHeld : held = some second)
      (wasLocked : payload.doubleEncrypted = true) (unlocks : ∀ secret ∈ payload.secrets,
        ((payload.fieldsOf services.cipher [] second).unlock secret).isOk = true) :
      Effect services payload held transition
        (payload.recast (Secret.settle (payload.fieldsOf services.cipher [] second).unlock) false
          none)
        none (Secret.settle (payload.fieldsOf services.cipher [] second).unlock)

variable {services : Services} {payload next : Payload} {held : Option String}
  {transition : Transition}

/-! ## What the changes check and do -/

theorem Account.withAddressLabel_eq_ok {account result : Account} {index : UInt32}
    {label : String} :
    account.withAddressLabel index label = .ok result ↔ Text.allBlank label = false ∧
      (∀ existing, account.addressLabels.find? index = some existing → existing = label) ∧
      result = { account with addressLabels := account.addressLabels.insert index label } := by
  unfold withAddressLabel
  cases Text.allBlank label with
  | true => simp
  | false =>
    cases account.addressLabels.find? index with
    | none => simp [eq_comm]
    | some existing =>
      by_cases same : existing = label
      · simp [same, eq_comm]
      · simp [same]

namespace Payload

theorem body?_of_bodies {body : Body} {others : List Body}
    (bodies : payload.bodies = body :: others) : payload.body? = some body := by
  rw [body?, bodies, List.head?_cons]

theorem accounts_of_body {body : Body} (isBody : payload.body? = some body) :
    payload.accounts = body.accounts := by
  simp [accounts, isBody]

theorem withAccount_eq_ok {index : UInt64} {account : Account}
    (changed : payload.withAccount index account = .ok next) :
    ∃ body, payload.body? = some body ∧
      next = payload.withBody { body with accounts := body.accounts.set index.toNat account } := by
  obtain ⟨body, isBody, changed⟩ := bind_eq_ok.mp changed
  obtain ⟨changedBody, isChanged, changed⟩ := bind_eq_ok.mp changed
  cases changed
  rw [liftError_eq_ok, requireBody_eq_ok] at isBody
  rw [liftError_eq_ok, Body.withAccount] at isChanged
  split at isChanged
  · cases isChanged
    exact ⟨body, isBody, rfl⟩
  · cases isChanged

/-- An account that is looked up and put back with the same derivations and all its labels. -/
theorem edit_of_withAccount {index : UInt64} {old new : Account}
    (found : liftError .validation (payload.account index) = .ok old)
    (changed : payload.withAccount index new = .ok next)
    (derivations : new.derivations = old.derivations)
    (defaultScheme : new.defaultScheme = old.defaultScheme)
    (labels : ∀ reserved label, old.addressLabels.find? reserved = some label →
      new.addressLabels.find? reserved = some label)
    (inUse : new.archived = true → old.archived = true ∨ index ≠ payload.defaultAccount)
    (relabelled : new.addressLabels = old.addressLabels ∨ transition.labels = true) :
    Edit services payload held transition next := by
  obtain ⟨body, isBody, rfl⟩ := withAccount_eq_ok changed
  rw [liftError_eq_ok, account_eq_ok, accounts_of_body isBody] at found
  have sameDefault : payload.defaultAccount = body.defaultAccount := by
    simp [defaultAccount, isBody]
  exact .account isBody found derivations defaultScheme labels (sameDefault ▸ inUse) relabelled

theorem edit_of_addAccount {label : String} {second : Option String}
    (fits : (Transition.addAccount label second).Fits payload held)
    (applied : payload.addAccount services label second = .ok next) :
    Edit services payload held transition next := by
  obtain ⟨_, _, applied⟩ := bind_eq_ok.mp applied
  obtain ⟨body, isBody, applied⟩ := bind_eq_ok.mp applied
  obtain ⟨fields, accessed, applied⟩ := bind_eq_ok.mp applied
  obtain ⟨seed, revealed, applied⟩ := bind_eq_ok.mp applied
  rw [liftError_eq_ok, requireBody_eq_ok] at isBody
  rw [fieldCipher_congr fun isLocked => fits isLocked second rfl, fieldCipher_eq_ok] at accessed
  obtain ⟨_, rfl⟩ := accessed
  split at applied
  · cases applied
  · rename_i number isNumber
    obtain ⟨account, derived, applied⟩ := bind_eq_ok.mp applied
    cases applied
    have distinct : (Scheme.allFor payload.version).Nodup := by
      cases payload.version <;> decide
    obtain ⟨more, rfl, schemes, each⟩ := deriveAll_eq_ok distinct derived
    refine .added isBody revealed isNumber schemes ?_ each rfl
    cases payload.version <;> rfl

theorem edit_of_labelAccount {index : UInt64} {label : String}
    (applied : payload.labelAccount index label = .ok next) :
    Edit services payload held transition next := by
  obtain ⟨_, _, applied⟩ := bind_eq_ok.mp applied
  obtain ⟨account, found, applied⟩ := bind_eq_ok.mp applied
  exact edit_of_withAccount found applied rfl rfl (fun _ _ => id) .inl (.inl rfl)

theorem edit_of_archiveAccount {index : UInt64} {archived : Bool}
    (applied : payload.archiveAccount index archived = .ok next) :
    Edit services payload held transition next := by
  obtain ⟨account, found, applied⟩ := bind_eq_ok.mp applied
  split at applied
  · cases applied
  · rename_i allowed
    refine edit_of_withAccount found applied rfl rfl (fun _ _ => id) (fun isArchived =>
      .inr fun isDefault => ?_) (.inl rfl)
    exact allowed (by simp [show archived = true from isArchived, isDefault])

theorem edit_of_chooseDefault {index : UInt64} (applied : payload.chooseDefault index = .ok next) :
    Edit services payload held transition next := by
  obtain ⟨account, found, applied⟩ := bind_eq_ok.mp applied
  split at applied
  · cases applied
  · rename_i inUse
    obtain ⟨body, isBody, applied⟩ := bind_eq_ok.mp applied
    cases applied
    rw [liftError_eq_ok, requireBody_eq_ok] at isBody
    rw [liftError_eq_ok, account_eq_ok, accounts_of_body isBody] at found
    exact .body isBody body.verified index (.inr ⟨account, found, by simpa using inUse⟩)

theorem edit_of_markVerified {verified : Bool}
    (applied : payload.markVerified verified = .ok next) :
    Edit services payload held transition next := by
  obtain ⟨body, isBody, applied⟩ := bind_eq_ok.mp applied
  cases applied
  rw [liftError_eq_ok, requireBody_eq_ok] at isBody
  exact .body isBody verified body.defaultAccount (.inl rfl)

theorem edit_of_labelAddress {position : UInt64} {index : UInt32} {label : String}
    (isChange : transition = .labelAddress position index label)
    (applied : payload.labelAddress position index label = .ok next) :
    Edit services payload held transition next := by
  obtain ⟨account, found, applied⟩ := bind_eq_ok.mp applied
  obtain ⟨labelled, isLabelled, applied⟩ := bind_eq_ok.mp applied
  rw [liftError_eq_ok, Account.withAddressLabel_eq_ok] at isLabelled
  obtain ⟨_, unlessOther, rfl⟩ := isLabelled
  refine edit_of_withAccount found applied rfl rfl (fun reserved text isReserved => ?_) .inl
    (.inr (isChange ▸ rfl))
  rw [SortedMap.find?_insert]
  split
  · rename_i same
    rw [unlessOther text (same ▸ isReserved)]
  · exact isReserved

theorem edit_of_addImported {entry : ImportedAddress} (isChange : transition = .addImported entry)
    (applied : payload.addImported entry = .ok next) :
    Edit services payload held transition next := by
  obtain ⟨_, _, applied⟩ := bind_eq_ok.mp applied
  split at applied
  · cases applied
  · rename_i isNew
    cases applied
    exact .watched isChange (by simpa using isNew)

theorem address_of_imported? {address : String} {entry : ImportedAddress}
    (found : payload.imported? address = some entry) : entry.address = address := by
  have isOwn := List.find?_some found
  exact of_decide_eq_true isOwn

theorem entryOfKey_eq_ok {address : String} {key : Secret} {device : Device} {now : Instant}
    {entry : ImportedAddress} (made : payload.entryOfKey address key device now = .ok entry) :
    entry.address = address ∧ entry.key = some key ∧
      ∀ existing, payload.imported? address = some existing → existing.key = none := by
  unfold entryOfKey at made
  split at made
  · rename_i isNew
    cases made
    exact ⟨rfl, rfl, fun existing found => nomatch isNew.symm.trans found⟩
  · rename_i existing found
    split at made
    · rename_i isWatchOnly
      cases made
      have isOwn := address_of_imported? found
      refine ⟨isOwn, rfl, fun other isOther => ?_⟩
      cases found.symm.trans isOther
      exact Option.isNone_iff_eq_none.mp isWatchOnly
    · cases made

theorem edit_of_importKey {wif : String} {label : Option String} {device : Device}
    {second : Option String}
    (fits : (Transition.importKey wif label device second).Fits payload held)
    (applied : (payload.importKey services wif label device second).map Prod.fst = .ok next) :
    Edit services payload held transition next := by
  simp only [importKey, map_eq_ok, bind_eq_ok, liftError_eq_ok,
    fieldCipher_congr fun isLocked => fits isLocked second rfl, fieldCipher_eq_ok] at applied
  obtain ⟨_, ⟨address, isAddress, _, ⟨_, rfl⟩, key, closed, entry, made, labelled⟩, rfl⟩ := applied
  have ⟨isOwn, hasKey, noKey⟩ := entryOfKey_eq_ok made
  subst isOwn
  cases label with
  | none =>
    cases labelled
    exact .imported isAddress closed hasKey noKey
  | some label =>
    cases labelled
    exact .imported isAddress closed hasKey noKey

theorem requireEntry_eq_ok {address : String} {entry : ImportedAddress}
    (found : payload.requireEntry address = .ok entry) :
    payload.imported? entry.address = some entry := by
  unfold requireEntry at found
  split at found
  · rename_i isThere
    cases found
    rw [address_of_imported? isThere]
    exact isThere
  · cases found

theorem edit_of_archiveImported {address : String} {archived : Bool}
    (applied : payload.archiveImported address archived = .ok next) :
    Edit services payload held transition next := by
  obtain ⟨entry, found, applied⟩ := bind_eq_ok.mp applied
  cases applied
  have isThere := requireEntry_eq_ok found
  exact .entry isThere rfl

theorem edit_of_labelImported {address label : String}
    (applied : payload.labelImported address label = .ok next) :
    Edit services payload held transition next := by
  obtain ⟨entry, found, applied⟩ := bind_eq_ok.mp applied
  cases applied
  have isThere := requireEntry_eq_ok found
  exact .entry isThere rfl

theorem edit_of_setNote {subject note : String}
    (applied : payload.setNote subject note = .ok next) :
    Edit services payload held transition next := by
  obtain ⟨_, _, applied⟩ := bind_eq_ok.mp applied
  cases applied
  exact .notes _

theorem edit_of_hierarchical {guid sharedKey label : String} {entropy : Bytes} {iterations : UInt32}
    (made : hierarchical services.keys guid sharedKey label entropy iterations = .ok payload) :
    Edit services (flat guid sharedKey iterations) none
      (.upgradeToAccounts entropy label none) payload := by
  obtain ⟨_, _, made⟩ := bind_eq_ok.mp made
  obtain ⟨body, rooted, made⟩ := bind_eq_ok.mp made
  cases made
  exact .rooted rfl rfl rooted

theorem exists_edit_of_hierarchical {keys : KeySource} {guid sharedKey label : String}
    {entropy : Bytes} {iterations : UInt32}
    (made : hierarchical keys guid sharedKey label entropy iterations = .ok payload) :
    ∃ services, Edit services (flat guid sharedKey iterations) none
      (.upgradeToAccounts entropy label none) payload :=
  ⟨{ Toy.services with keys }, edit_of_hierarchical made⟩

theorem edit_of_upgradeToAccounts {entropy : Bytes} {label : String} {second : Option String}
    (isChange : transition = .upgradeToAccounts entropy label second)
    (fits : transition.Fits payload held)
    (applied : payload.upgradeToAccounts services entropy label second = .ok next) :
    Edit services payload held transition next := by
  unfold upgradeToAccounts at applied
  split at applied
  · cases applied
  · rename_i needed
    obtain ⟨_, _, applied⟩ := bind_eq_ok.mp applied
    obtain ⟨fields, accessed, applied⟩ := bind_eq_ok.mp applied
    rw [fieldCipher_congr fun isLocked => fits isLocked second (isChange ▸ rfl),
      fieldCipher_eq_ok] at accessed
    obtain ⟨_, rfl⟩ := accessed
    split at applied
    · cases applied
    · rename_i body made
      cases applied
      exact .rooted isChange (by simpa using needed) made

theorem edit_of_upgradeToSegwit {second : Option String}
    (isChange : transition = .upgradeToSegwit second)
    (fits : transition.Fits payload held)
    (applied : payload.upgradeToSegwit services second = .ok next) :
    Edit services payload held transition next := by
  unfold upgradeToSegwit at applied
  split at applied
  · cases applied
  · rename_i needed
    obtain ⟨fields, accessed, applied⟩ := bind_eq_ok.mp applied
    obtain ⟨bodies, upgraded, applied⟩ := bind_eq_ok.mp applied
    cases applied
    rw [fieldCipher_congr fun isLocked => fits isLocked second (isChange ▸ rfl),
      fieldCipher_eq_ok] at accessed
    obtain ⟨_, rfl⟩ := accessed
    exact .segwit (by simpa [needsSegwit] using needed) upgraded (isChange ▸ rfl)

end Payload

theorem edit_of_apply (fits : transition.Fits payload held)
    (applied : transition.apply services payload = .ok next) (edits : transition.Edits) :
    Edit services payload held transition next := by
  cases transition with
  | addAccount => exact Payload.edit_of_addAccount fits applied
  | labelAccount => exact Payload.edit_of_labelAccount applied
  | archiveAccount => exact Payload.edit_of_archiveAccount applied
  | chooseDefault => exact Payload.edit_of_chooseDefault applied
  | markVerified => exact Payload.edit_of_markVerified applied
  | labelAddress => exact Payload.edit_of_labelAddress rfl applied
  | addImported => exact Payload.edit_of_addImported rfl applied
  | importKey => exact Payload.edit_of_importKey fits applied
  | archiveImported => exact Payload.edit_of_archiveImported applied
  | labelImported => exact Payload.edit_of_labelImported applied
  | setNote => exact Payload.edit_of_setNote applied
  | setSecond => exact edits.elim
  | unsetSecond => exact edits.elim
  | upgradeToAccounts => exact Payload.edit_of_upgradeToAccounts rfl fits applied
  | upgradeToSegwit => exact Payload.edit_of_upgradeToSegwit rfl fits applied

theorem effect_of_apply (fits : transition.Fits payload held)
    (applied : transition.apply services payload = .ok next) :
    ∃ change, Effect services payload held transition next (transition.leaves held) change := by
  cases transition with
  | setSecond second =>
    obtain ⟨wasPlain, _, consistent, locks, rfl⟩ := Payload.setSecond_eq_ok.mp applied
    exact ⟨_, .locked wasPlain consistent locks⟩
  | unsetSecond second =>
    obtain ⟨wasLocked, _, unlocks, rfl⟩ := Payload.unsetSecond_eq_ok.mp applied
    exact ⟨_, .unlocked (fits wasLocked (some second) rfl).symm wasLocked unlocks⟩
  | _ => exact ⟨id, .edited (edit_of_apply fits applied trivial)⟩

theorem Transition.admits_of_apply {second : Option String}
    (isGiven : transition.given? = some second)
    (applied : transition.apply services payload = .ok next) :
    payload.Admits services.cipher second := by
  cases transition <;> cases isGiven
  case addAccount =>
    obtain ⟨_, _, applied⟩ := bind_eq_ok.mp applied
    obtain ⟨_, _, applied⟩ := bind_eq_ok.mp applied
    obtain ⟨_, accessed, _⟩ := bind_eq_ok.mp applied
    exact (Payload.fieldCipher_eq_ok.mp accessed).1
  case importKey =>
    simp only [apply, Payload.importKey, map_eq_ok, bind_eq_ok] at applied
    obtain ⟨_, ⟨_, _, _, accessed, _⟩, _⟩ := applied
    exact (Payload.fieldCipher_eq_ok.mp accessed).1
  case unsetSecond =>
    obtain ⟨_, accepted, _⟩ := Payload.unsetSecond_eq_ok.mp applied
    exact fun _ => ⟨_, rfl, accepted⟩
  case upgradeToAccounts =>
    simp only [apply, Payload.upgradeToAccounts] at applied
    split at applied
    · cases applied
    · obtain ⟨_, _, applied⟩ := bind_eq_ok.mp applied
      obtain ⟨_, accessed, _⟩ := bind_eq_ok.mp applied
      exact (Payload.fieldCipher_eq_ok.mp accessed).1
  case upgradeToSegwit =>
    simp only [apply, Payload.upgradeToSegwit] at applied
    split at applied
    · cases applied
    · obtain ⟨_, accessed, _⟩ := bind_eq_ok.mp applied
      exact (Payload.fieldCipher_eq_ok.mp accessed).1

/-- A change that succeeds is given the second password where it asks for it, whatever that is. -/
theorem exists_fits (applied : transition.apply services payload = .ok next) :
    ∃ held, (payload.doubleEncrypted = true → held.isSome = true) ∧
      transition.Fits payload held := by
  cases isGiven : transition.given? with
  | none =>
    -- Any second password will do for a change that asks for none.
    exact ⟨some "", fun _ => rfl, fun _ second isAsked => nomatch isGiven.symm.trans isAsked⟩
  | some given =>
    refine ⟨given, fun isLocked => ?_, fun _ second isAsked =>
      (Option.some.inj (isGiven.symm.trans isAsked)).symm⟩
    obtain ⟨second, rfl, _⟩ := Transition.admits_of_apply isGiven applied isLocked
    rfl

/-- A change that succeeds has an effect under some second password, where the wallet has one. -/
theorem exists_effect (applied : transition.apply services payload = .ok next) :
    ∃ held change, (payload.doubleEncrypted = true → held.isSome = true) ∧
      Effect services payload held transition next (transition.leaves held) change := by
  obtain ⟨held, isThere, fits⟩ := exists_fits applied
  obtain ⟨change, effect⟩ := effect_of_apply fits applied
  exact ⟨held, change, isThere, effect⟩

end Coffer
