import Coffer.Proofs.Cipher
import Coffer.Proofs.Payload.Reading
/-!
# Nothing is lost

After a change, a wallet has everything that it had: its accounts in their places with their public
keys and reserved indexes, its imported addresses in their order, and every secret with its value.
-/

namespace Coffer

variable {services : Services} {payload next : Payload} {held left : Option String}
  {transition : Transition} {change : Secret → Secret}

/-! ## Accounts -/

/-- An account has what an earlier one had, each private key in its new form. -/
structure Account.Extends (change : Secret → Secret) (before after : Account) : Prop where
  derivations : ∃ more, after.derivations =
    before.derivations.map (Derivation.recast change) ++ more
  labels : ∀ index label, before.addressLabels.find? index = some label →
    after.addressLabels.find? index = some label

namespace Account

theorem extends_of_append {before after : Account} {more : List Derivation}
    (derivations : after.derivations = before.derivations ++ more)
    (labels : ∀ index label, before.addressLabels.find? index = some label →
      after.addressLabels.find? index = some label) : before.Extends id after where
  derivations := by
    have same : before.derivations.map (Derivation.recast id) = before.derivations :=
      map_eq_self fun _ _ => rfl
    exact ⟨more, same.symm ▸ derivations⟩
  labels := labels

theorem Extends.refl (account : Account) : account.Extends id account :=
  extends_of_append (List.append_nil _).symm fun _ _ => id

theorem extends_recast (account : Account) : account.Extends change (account.recast change) where
  derivations := ⟨[], (List.append_nil _).symm⟩
  labels := fun _ _ => id

theorem Extends.derivation? {before after : Account} (later : before.Extends change after)
    {scheme : Scheme} {derivation : Derivation}
    (found : before.derivation? scheme = some derivation) :
    after.derivation? scheme = some (derivation.recast change) := by
  obtain ⟨more, derivations⟩ := later.derivations
  have recast : (before.recast change).derivation? scheme = some (derivation.recast change) := by
    rw [derivation?_recast, found, Option.map_some]
  simp only [Account.derivation?, Account.recast] at recast
  rw [Account.derivation?, derivations, List.find?_append, recast, Option.some_or]

theorem Extends.xpub? {before after : Account} (later : before.Extends change after)
    {scheme : Scheme} {xpub : String} (found : before.xpub? scheme = some xpub) :
    after.xpub? scheme = some xpub := by
  obtain ⟨derivation, isFirst, rfl⟩ := Option.map_eq_some_iff.mp found
  rw [Account.xpub?, later.derivation? isFirst]
  rfl

end Account

/-! ## Payloads -/

/-- A payload has what an earlier one had, each secret in its new form. -/
structure Payload.Extends (change : Secret → Secret) (before after : Payload) : Prop where
  seed : ∀ body, before.body? = some body → ∃ later, after.body? = some later ∧
    later.seed = change body.seed
  accounts : ∀ (i : Nat) (account : Account), before.accounts[i]? = some account →
    ∃ later, after.accounts[i]? = some later ∧ account.Extends change later
  addresses : before.imported.map ImportedAddress.address <+: after.imported.map
    ImportedAddress.address
  keys : ∀ address entry key, before.imported? address = some entry → entry.key = some key →
    ∃ later, after.imported? address = some later ∧ later.key = some (change key)

namespace Payload

/-- A body with the seed of the one in use and at least its accounts may take its place. -/
theorem extends_withBody {body new : Body} (isBody : payload.body? = some body)
    (sameSeed : new.seed = body.seed)
    (accounts : ∀ (i : Nat) (account : Account), body.accounts[i]? = some account →
      ∃ later, new.accounts[i]? = some later ∧ account.Extends id later) :
    payload.Extends id (payload.withBody new) where
  seed := by
    intro other isOther
    cases isBody.symm.trans isOther
    exact ⟨new, rfl, sameSeed⟩
  accounts := by
    rw [accounts_of_body isBody]
    exact accounts
  addresses := List.prefix_refl _
  keys := fun _ entry _ found hasKey => ⟨entry, found, hasKey⟩

theorem extends_withEntry {entry : ImportedAddress} (sameKey : ∀ existing key,
      payload.imported? entry.address = some existing → existing.key = some key →
        entry.key = some key) :
    payload.Extends id (payload.withEntry entry) where
  seed := fun body isBody => ⟨body, isBody, rfl⟩
  accounts := fun _ account isAccount => ⟨account, isAccount, .refl account⟩
  addresses := addresses_prefix_putEntry entry payload.imported
  keys := by
    intro address existing key found hasKey
    rw [imported?, withEntry, find?_putEntry]
    split
    · rename_i isOwn
      subst isOwn
      exact ⟨entry, rfl, sameKey existing key found hasKey⟩
    · exact ⟨existing, found, hasKey⟩

theorem extends_recast {flag : Bool} {hash : Option String} :
    payload.Extends change (payload.recast change flag hash) where
  seed := by
    intro body isBody
    exact ⟨body.recast change, by rw [body?_recast, isBody, Option.map_some], rfl⟩
  accounts := by
    intro i account isAccount
    refine ⟨account.recast change, ?_, account.extends_recast⟩
    rw [accounts_recast, List.getElem?_map, isAccount, Option.map_some]
  addresses := by
    have same : (payload.imported.map (ImportedAddress.recast change)).map ImportedAddress.address =
        payload.imported.map ImportedAddress.address := by
      rw [List.map_map]
      rfl
    exact same ▸ List.prefix_refl _
  keys := by
    intro address entry key found hasKey
    refine ⟨entry.recast change, ?_, ?_⟩
    · rw [imported?_recast, found, Option.map_some]
    · rw [ImportedAddress.recast, hasKey, Option.map_some]

theorem Sound.noBodies (sound : payload.Sound) (needed : payload.needsAccounts = true) :
    payload.bodies = [] := by
  rcases sound.bodies with ⟨isHierarchical, _⟩ | ⟨_, none⟩
  · cases isVersion : payload.version <;>
      simp_all [needsAccounts, Version.isHierarchical, Version.number]
  · exact none

theorem extends_of_noBody (none : payload.bodies = [])
    (imported : next.imported = payload.imported) : payload.Extends id next := by
  have noBody : payload.body? = Option.none := by rw [body?, none, List.head?_nil]
  constructor
  · intro body isBody
    cases noBody.symm.trans isBody
  · intro i account isAccount
    simp [accounts, noBody] at isAccount
  · exact imported ▸ List.prefix_refl _
  · intro address entry key found hasKey
    refine ⟨entry, ?_, hasKey⟩
    rw [imported?, imported]
    exact found

theorem extends_of_addSegwit {fields : Option FieldCipher} {seed : Bytes} {position : Nat}
    {account after : Account}
    (upgraded : addSegwit services fields seed position account = .ok after) :
    account.Extends id after := by
  rcases addSegwit_eq_ok upgraded with ⟨_, rfl⟩ | ⟨lacking, number, derivation, _, derived, rfl⟩
  · exact .refl _
  · have isNew : derivation.scheme ∉ account.derivations.map Derivation.scheme := by
      rw [(derive_eq_ok.mp derived).1]
      exact Account.xpub?_eq_none.mp lacking
    rw [Account.withDerivation_of_new isNew]
    exact Account.extends_of_append rfl fun _ _ => id

end Payload

theorem Edit.extends (edit : Edit services payload held transition next) (sound : payload.Sound) :
    payload.Extends id next := by
  cases edit with
  | @account body index old new isBody isOld derivations _ labels =>
    refine Payload.extends_withBody isBody rfl fun i account isAccount => ?_
    by_cases own : index.toNat = i
    · subst own
      cases isOld.symm.trans isAccount
      refine ⟨new, ?_, Account.extends_of_append (by rw [derivations, List.append_nil]) labels⟩
      exact List.getElem?_set_self (List.getElem?_eq_some_iff.mp isOld).1
    · exact ⟨account, (List.getElem?_set_ne own).trans isAccount, .refl account⟩
  | body isBody =>
    exact Payload.extends_withBody isBody rfl fun i account isAccount =>
      ⟨account, isAccount, .refl account⟩
  | added isBody =>
    refine Payload.extends_withBody isBody rfl fun i account isAccount =>
      ⟨account, ?_, .refl account⟩
    have inRange := (List.getElem?_eq_some_iff.mp isAccount).1
    exact (List.getElem?_append_left inRange).trans isAccount
  | watched _ isNew => exact Payload.extends_withEntry fun existing key found =>
    nomatch isNew.symm.trans found
  | entry isThere sameKey =>
    refine Payload.extends_withEntry fun existing key found hasKey => ?_
    cases isThere.symm.trans found
    exact sameKey.trans hasKey
  | imported _ _ _ noKey =>
    exact Payload.extends_withEntry fun existing key found isKey =>
      nomatch (noKey existing found).symm.trans isKey
  | notes =>
    exact ⟨fun body isBody => ⟨body, isBody, rfl⟩, fun i account isAccount =>
      ⟨account, isAccount, .refl account⟩, List.prefix_refl _, fun _ entry _ found hasKey =>
        ⟨entry, found, hasKey⟩⟩
  | rooted _ needed => exact Payload.extends_of_noBody (sound.noBodies needed) rfl
  | segwit _ upgraded =>
    rcases Payload.head_of_upgradeBodies upgraded with
      ⟨none, rfl⟩ | ⟨body, others, later, rest, bodies, rfl, upgradedBody⟩
    · exact Payload.extends_of_noBody none rfl
    · obtain ⟨seed, accounts, _, upgradedAll, rfl⟩ := Payload.upgradeBody_eq_ok upgradedBody
      have isBody := Payload.body?_of_bodies bodies
      have kept : payload.Extends id (payload.withBody { body with accounts }) := by
        refine Payload.extends_withBody isBody rfl fun i account isAccount => ?_
        obtain ⟨later, isLater, upgradedOne⟩ :=
          (Payload.addSegwitFrom_eq_ok upgradedAll).2 i account isAccount
        exact ⟨later, isLater, Payload.extends_of_addSegwit upgradedOne⟩
      exact ⟨kept.seed, kept.accounts, kept.addresses, kept.keys⟩

theorem Effect.extends (effect : Effect services payload held transition next left change)
    (sound : payload.Sound) : payload.Extends change next := by
  cases effect with
  | edited edit => exact edit.extends sound
  | locked => exact Payload.extends_recast
  | unlocked => exact Payload.extends_recast

/-! ## What can be revealed -/

namespace Payload

/-- The stored seed, as it stands. -/
def revealSeedText (payload : Payload) (cipher : Cipher) (second : Option String) :
    Except WalletError String := do
  let body ← liftError .validation payload.requireBody
  let fields ← payload.fieldCipher cipher [] second
  body.seed.reveal fields

theorem revealSeedText_eq_ok {cipher : Cipher} {text : String} :
    payload.revealSeedText cipher held = .ok text ↔ payload.Admits cipher held ∧
      ∃ body, payload.body? = some body ∧ payload.Reads cipher held body.seed text := by
  simp only [revealSeedText, bind_eq_ok, liftError_eq_ok, requireBody_eq_ok,
    fieldCipher_eq_ok, Reads]
  constructor
  · rintro ⟨body, isBody, fields, ⟨admitted, rfl⟩, reads⟩
    exact ⟨admitted, body, isBody, reads⟩
  · rintro ⟨admitted, body, isBody, reads⟩
    exact ⟨body, isBody, _, ⟨admitted, rfl⟩, reads⟩

end Payload

namespace Effect

variable (effect : Effect services payload held transition next left change) (sound : payload.Sound)
  (inverts : services.cipher.InvertsAt payload.iterations)

include effect sound inverts

/-- Whoever could read a secret of the wallet is admitted after the change and reads it. -/
theorem admits_and_reads {secret : Secret} {text : String}
    (admitted : payload.Admits services.cipher held)
    (isIn : secret ∈ payload.secrets) (reads : payload.Reads services.cipher held secret text) :
    next.Admits services.cipher left ∧ next.Reads services.cipher left (change secret) text :=
  ⟨effect.admits inverts sound.consistent (List.ne_nil_of_mem isIn) admitted,
    effect.reads inverts isIn reads⟩

theorem revealSeedText {text : String}
    (revealed : payload.revealSeedText services.cipher held = .ok text) :
    next.revealSeedText services.cipher left = .ok text := by
  obtain ⟨admitted, body, isBody, reads⟩ := Payload.revealSeedText_eq_ok.mp revealed
  obtain ⟨later, isLater, sameSeed⟩ := (effect.extends sound).seed body isBody
  obtain ⟨stillAdmitted, stillReads⟩ :=
    effect.admits_and_reads sound inverts admitted (Payload.seed_mem_secrets isBody) reads
  exact Payload.revealSeedText_eq_ok.mpr ⟨stillAdmitted, later, isLater, sameSeed ▸ stillReads⟩

theorem revealPhrase {phrase : String}
    (revealed : payload.revealPhrase services.cipher held = .ok phrase) :
    next.revealPhrase services.cipher left = .ok phrase := by
  obtain ⟨admitted, body, text, entropy, isBody, reads, spelled⟩ :=
    Payload.revealPhrase_eq_ok.mp revealed
  obtain ⟨later, isLater, sameSeed⟩ := (effect.extends sound).seed body isBody
  obtain ⟨stillAdmitted, stillReads⟩ :=
    effect.admits_and_reads sound inverts admitted (Payload.seed_mem_secrets isBody) reads
  exact Payload.revealPhrase_eq_ok.mpr ⟨stillAdmitted, later, text, entropy, isLater,
    sameSeed ▸ stillReads, spelled⟩

theorem revealXpriv {index : UInt64} {scheme : Scheme} {text : String}
    (revealed : payload.revealXpriv services.cipher index scheme held = .ok text) :
    next.revealXpriv services.cipher index scheme left = .ok text := by
  obtain ⟨admitted, account, derivation, isAccount, found, reads⟩ :=
    Payload.revealXpriv_eq_ok.mp revealed
  obtain ⟨later, isLater, extended⟩ := (effect.extends sound).accounts index.toNat account isAccount
  have isIn :=
    Payload.xpriv_mem_secrets (List.mem_of_getElem? isAccount) (List.mem_of_find?_eq_some found)
  obtain ⟨stillAdmitted, stillReads⟩ := effect.admits_and_reads sound inverts admitted isIn reads
  exact Payload.revealXpriv_eq_ok.mpr ⟨stillAdmitted, later, _, isLater,
    extended.derivation? found, stillReads⟩

theorem revealImported {address text : String}
    (revealed : payload.revealImported services.cipher address held = .ok text) :
    next.revealImported services.cipher address left = .ok text := by
  obtain ⟨admitted, entry, key, found, hasKey, reads⟩ := Payload.revealImported_eq_ok.mp revealed
  obtain ⟨later, isLater, sameKey⟩ := (effect.extends sound).keys address entry key found hasKey
  have isIn := Payload.key_mem_secrets (List.mem_of_find?_eq_some found) hasKey
  obtain ⟨stillAdmitted, stillReads⟩ := effect.admits_and_reads sound inverts admitted isIn reads
  exact Payload.revealImported_eq_ok.mpr ⟨stillAdmitted, later, _, isLater, sameKey, stillReads⟩

end Effect

/-- No change of a valid wallet loses keys or history. The wallet stays who it is. Each account
stays in its place with its public keys and reserved indexes, and the imported addresses come first
and in their order. The seed, the backup phrase, the private keys of accounts and the imported keys
that `held` revealed are revealed with the same values by the second password that the change
leaves, as long as no other one that the change is given passes for `held`. -/
theorem Transition.apply_loses_nothing (inverts : services.cipher.Inverts)
    (valid : payload.validate = .ok ())
    (only : payload.doubleEncrypted = true → ∀ given, transition.given? = some given →
      payload.Admits services.cipher given → given = held)
    (applied : transition.apply services payload = .ok next) :
    (next.guid = payload.guid ∧ next.sharedKey = payload.sharedKey ∧
      next.iterations = payload.iterations) ∧
      (∀ (i : Nat) (account : Account), payload.accounts[i]? = some account →
        ∃ later, next.accounts[i]? = some later ∧
          (∀ scheme xpub, account.xpub? scheme = some xpub → later.xpub? scheme = some xpub) ∧
          ∀ index label, account.addressLabels.find? index = some label →
            later.addressLabels.find? index = some label) ∧
      payload.imported.map ImportedAddress.address <+: next.imported.map ImportedAddress.address ∧
      (∀ text, payload.revealSeedText services.cipher held = .ok text →
        next.revealSeedText services.cipher (transition.leaves held) = .ok text) ∧
      (∀ phrase, payload.revealPhrase services.cipher held = .ok phrase →
        next.revealPhrase services.cipher (transition.leaves held) = .ok phrase) ∧
      (∀ index scheme text, payload.revealXpriv services.cipher index scheme held = .ok text →
        next.revealXpriv services.cipher index scheme (transition.leaves held) = .ok text) ∧
      ∀ address text, payload.revealImported services.cipher address held = .ok text →
        next.revealImported services.cipher address (transition.leaves held) = .ok text := by
  have fits : transition.Fits payload held := fun isLocked given isGiven =>
    only isLocked given isGiven (admits_of_apply isGiven applied)
  obtain ⟨change, effect⟩ := effect_of_apply fits applied
  have sound := Payload.sound_of_valid valid
  have invertsAt := inverts.at sound.positive
  have extended := effect.extends sound
  refine ⟨effect.kept, fun i account isAccount => ?_, extended.addresses, fun _ =>
    effect.revealSeedText sound invertsAt, fun _ => effect.revealPhrase sound invertsAt,
    fun _ _ _ => effect.revealXpriv sound invertsAt,
    fun _ _ => effect.revealImported sound invertsAt⟩
  obtain ⟨later, isLater, extendedAccount⟩ := extended.accounts i account isAccount
  exact ⟨later, isLater, fun _ _ => extendedAccount.xpub?, extendedAccount.labels⟩

/-- A wallet with one account, whose keys are spelled out, and one imported key. -/
def Payload.readable : Payload :=
  { flat "guid" "key" 7 with
    version := .v3
    bodies :=
      [⟨.plain "00ff", false, 0, [.ofDerivation "main" ⟨.legacy, .plain "prv-main", "pub-main"⟩]⟩]
    imported := [⟨"addr-legacy-cold", some (.plain "wif-cold"), "", false, none, "", ""⟩] }

def Payload.readableUnder (second : String) : Payload :=
  readable.recast (Secret.settle (readable.fieldsOf Toy.cipher [] second).lock) true
    (some (readable.hashOf second))

/-- After a key is imported into the locked wallet, it reveals the private key that it was locked
with. -/
theorem Transition.apply_loses_nothing_readable :
    ∃ next, (importKey "wif-warm" none ⟨"android", "1"⟩ (some "second")).apply Toy.services
        (.readableUnder "second") = .ok next ∧
      next.revealXpriv Toy.cipher 0 .legacy (some "second") = .ok "prv-main" := by
  obtain ⟨next, applied⟩ : ∃ next,
      (importKey "wif-warm" none ⟨"android", "1"⟩ (some "second")).apply Toy.services
      (.readableUnder "second") = .ok next := exists_of_isOk (by decide +kernel)
  have valid : (Payload.readableUnder "second").validate = .ok () :=
    toOption_eq_some.mp (by decide +kernel)
  have revealed : (Payload.readableUnder "second").revealXpriv Toy.cipher 0 .legacy
      (some "second") = .ok "prv-main" := toOption_eq_some.mp (by decide +kernel)
  have isHeld (given : Option String)
      (isGiven : (importKey "wif-warm" none ⟨"android", "1"⟩ (some "second")).given? =
      some given) : given = some "second" := (Option.some.inj isGiven).symm
  obtain ⟨_, _, _, _, _, xprivs, _⟩ := apply_loses_nothing Toy.cipher_inverts valid
    (fun _ given isGiven _ => isHeld given isGiven) applied
  exact ⟨next, applied, xprivs 0 .legacy "prv-main" revealed⟩

/-- Where another second password passes for the one that a wallet was locked under, unlocking it
with that one loses the keys: the two have the same fingerprint behind the key of this wallet. -/
theorem Transition.other_second_loses_keys : Toy.cipher.Inverts ∧
    (Payload.readableUnder "010953").validate = .ok () ∧
    (Payload.readableUnder "010953").revealXpriv Toy.cipher 0 .legacy (some "010953") =
      .ok "prv-main" ∧
    ∃ next, (unsetSecond "094483").apply Toy.services (.readableUnder "010953") = .ok next ∧
      next.revealXpriv Toy.cipher 0 .legacy none = .ok "prv-eedc" := by
  have valid : ((Payload.readableUnder "010953").validate).toOption = some () := by decide +kernel
  have before : ((Payload.readableUnder "010953").revealXpriv Toy.cipher 0 .legacy
    (some "010953")).toOption = some "prv-main" := by decide +kernel
  have after : ((unsetSecond "094483").apply Toy.services (.readableUnder "010953") >>= fun next =>
    next.revealXpriv Toy.cipher 0 .legacy none).toOption = some "prv-eedc" := by decide +kernel
  exact ⟨Toy.cipher_inverts, toOption_eq_some.mp valid, toOption_eq_some.mp before,
    bind_eq_ok.mp (toOption_eq_some.mp after)⟩

end Coffer
