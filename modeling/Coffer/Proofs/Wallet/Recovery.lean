import Coffer.Proofs.Wallet.Announcements
import Coffer.Proofs.Wallet.Origins
/-!
# What a backup phrase restores

A wallet that is recovered from the backup phrase of another one has the accounts of that one up to
the last one whose legacy key was used, unless too many before it were not. The search asks for
legacy keys alone, whatever the version of the other wallet, so that an account which was used by
its segwit key only does not count.
-/

namespace Coffer

/-! ## Keys in use -/

/-- From one seed, the source makes different public keys for different schemes or numbers. -/
def KeySource.TellsPathsApart (keys : KeySource) : Prop :=
  ∀ ⦃seed : Bytes⦄ ⦃scheme other : Scheme⦄ ⦃number otherNumber : UInt32⦄
    ⦃pair otherPair : AccountKeys⦄, keys.accountKeys seed scheme number = .ok pair →
      keys.accountKeys seed other otherNumber = .ok otherPair →
      pair.xpub = otherPair.xpub → scheme = other ∧ number = otherNumber

/-- The key of the account under a scheme was used. -/
def Account.UsedUnder (account : Account) (scheme : Scheme) (used : String → Prop) : Prop :=
  ∃ xpub, account.xpub? scheme = some xpub ∧ used xpub

variable {cipher : Cipher} {keys : KeySource} {known : String → Prop} {payload : Payload}
  {held second : Option String} {entropy seed : Bytes} {used : String → Prop}

/-- Before the account at a position, and behind the first one, every run of so many accounts has an
active one. -/
def Payload.NoRunBefore (payload : Payload) (active : Account → Prop) (gap last : Nat) : Prop :=
  ∀ start, 1 ≤ start → start + gap ≤ last →
    ∃ i account, start ≤ i ∧ i < start + gap ∧ payload.accounts[i]? = some account ∧ active account

theorem Payload.noRunBefore_second {active : Account → Prop} {gap : Nat} (positive : 0 < gap) :
    payload.NoRunBefore active gap 1 := fun start atLeast within => by omega

namespace Payload.StemsFrom

theorem accounts_pos (stems : payload.StemsFrom cipher keys known entropy held)
    (valid : payload.validate = .ok ()) : 0 < payload.accounts.length := by
  rcases (sound_of_valid valid).bodies with ⟨_, body, onlyBody, whole⟩ | ⟨isFlat, _⟩
  · obtain ⟨_, account, isDefault, _⟩ := Body.check_eq_ok.mp whole
    have isBody := body?_of_bodies onlyBody
    rw [accounts_of_body isBody]
    exact List.length_pos_of_mem (List.mem_of_getElem? isDefault)
  · cases stems.hierarchical.symm.trans isFlat

theorem exists_seed (stems : payload.StemsFrom cipher keys known entropy held)
    (valid : payload.validate = .ok ()) : ∃ seed, Phrase.seedOf entropy = .ok seed := by
  have isAccount := List.getElem?_eq_getElem (stems.accounts_pos valid)
  obtain ⟨seed, _, stretched, _⟩ := stems.legacyXpub isAccount
  exact ⟨seed, stretched⟩

variable (stems : payload.StemsFrom cipher keys known entropy held)
  (stretched : Phrase.seedOf entropy = .ok seed)

include stems stretched

theorem pair_of_account {i : Nat} {account : Account}
    (isAccount : payload.accounts[i]? = some account) {scheme : Scheme}
    {xpub : String} (hasXpub : account.xpub? scheme = some xpub) :
    i < 0x100000000 ∧ ∃ pair, keys.accountKeys seed scheme (UInt32.ofNat i) = .ok pair ∧
      pair.xpub = xpub := by
  obtain ⟨number, isNumber, carries⟩ := stems.rooted.numbered i account isAccount
  obtain ⟨inRange, rfl⟩ := accountNumber?_eq_some.mp isNumber
  obtain ⟨derivation, found, rfl⟩ := Option.map_eq_some_iff.mp hasXpub
  have hasScheme := List.find?_some found
  have isScheme : derivation.scheme = scheme := of_decide_eq_true hasScheme
  obtain ⟨other, pair, isOther, made, sameXpub, _⟩ :=
    carries.each derivation (List.mem_of_find?_eq_some found)
  cases stretched.symm.trans isOther
  exact ⟨inRange, pair, isScheme ▸ made, sameXpub.symm⟩

theorem usedUnder_legacy {i : Nat} {account : Account}
    (isAccount : payload.accounts[i]? = some account) :
    account.UsedUnder .legacy used ↔ keys.Used seed used i := by
  constructor
  · rintro ⟨xpub, hasXpub, isUsed⟩
    obtain ⟨inRange, pair, made, rfl⟩ := stems.pair_of_account stretched isAccount hasXpub
    exact ⟨inRange, pair, made, isUsed⟩
  · rintro ⟨_, pair, made, isUsed⟩
    obtain ⟨other, otherPair, isOther, otherMade, hasXpub⟩ := stems.legacyXpub isAccount
    cases stretched.symm.trans isOther
    cases made.symm.trans otherMade
    exact ⟨_, hasXpub, isUsed⟩

theorem unused_beyond (tellsPathsApart : keys.TellsPathsApart)
    (nothingElse : ∀ key, used key → ∃ account ∈ payload.accounts, ∃ scheme, account.xpub? scheme =
      some key) {i : Nat}
    (beyond : payload.accounts.length ≤ i) : ¬ keys.Used seed used i := by
  rintro ⟨inRange, pair, made, isUsed⟩
  obtain ⟨account, isIn, scheme, hasXpub⟩ := nothingElse pair.xpub isUsed
  obtain ⟨j, isAccount⟩ := List.getElem?_of_mem isIn
  obtain ⟨otherInRange, otherPair, otherMade, sameXpub⟩ :=
    stems.pair_of_account stretched isAccount hasXpub
  have sameNumber := congrArg UInt32.toNat (tellsPathsApart otherMade made sameXpub).2
  rw [UInt32.toNat_ofNat_of_lt' otherInRange, UInt32.toNat_ofNat_of_lt' inRange] at sameNumber
  have := (List.getElem?_eq_some_iff.mp isAccount).1
  omega

/-- An account whose legacy key was used is not behind those that a search keeps, unless so many
accounts before it were unused that the search ends there. -/
theorem le_of_noRunBefore {gap final last : Nat} {account : Account}
    (isLast : payload.accounts[last]? = some account) (lastUsed : account.UsedUnder .legacy used)
    (noRun : payload.NoRunBefore (fun account => account.UsedUnder .legacy used) gap last)
    (unused : ∀ i, final < i → i ≤ final + gap → ¬ keys.Used seed used i) : last ≤ final := by
  refine Nat.le_of_not_lt fun beyond => ?_
  rcases Nat.lt_or_ge (final + gap) last with behind | isNear
  · obtain ⟨i, other, atLeast, before, isOther, otherUsed⟩ :=
      noRun (final + 1) (by omega) (by omega)
    exact unused i atLeast (by omega) ((stems.usedUnder_legacy stretched isOther).mp otherUsed)
  · exact unused last beyond isNear ((stems.usedUnder_legacy stretched isLast).mp lastUsed)

theorem sameLegacy {next : Payload} {count i : Nat} {account other : Account}
    (restored : next.Restored keys entropy seed count)
    (isAccount : payload.accounts[i]? = some account)
    (isRestored : next.accounts[i]? = some other) :
    ∃ xpub, account.xpub? .legacy = some xpub ∧ other.xpub? .legacy = some xpub := by
  obtain ⟨again, pair, isAgain, made, hasXpub⟩ := stems.legacyXpub isAccount
  cases stretched.symm.trans isAgain
  obtain ⟨otherPair, xpriv, otherMade, only⟩ := restored.each i other isRestored
  cases made.symm.trans otherMade
  exact ⟨pair.xpub, hasXpub, (Account.legacy_xpub? only).1⟩

end Payload.StemsFrom

namespace Wallet

variable {wallet : Wallet} {workplace : Workplace} {store : Store} {draw : Draw}
  {phrase label : String}

/-! ## Recoveries -/

/-- Nothing but the phrase keeps a wallet from being recovered. -/
structure CanRecover (workplace : Workplace) (store : Store) (draw : Draw) (label : String) :
    Prop where
  encrypts : workplace.services.cipher.Encrypts
  hasDevice : ∃ device, workplace.config.device = some device
  positive : 0 < workplace.config.iterations
  named : draw.guid ≠ ""
  keyed : draw.sharedKey ≠ ""
  labelled : Text.allBlank label = false
  noFailure : store.failure = none
  isNew : store.record? draw.guid = none

theorem guid_of_restored {payload : Payload}
    (isRestored : restored? workplace draw phrase label = some payload) :
    payload.guid = draw.guid := by
  simp only [restored?, Option.bind_eq_bind, Option.bind_eq_some_iff,
    toOption_eq_some] at isRestored
  obtain ⟨_, _, first, made, search, ran, same⟩ := isRestored
  cases same
  obtain ⟨_, edit⟩ := Payload.exists_edit_of_hierarchical made
  have isFirst : first.guid = draw.guid := edit.kept.1
  have adds {payload next : Payload} {label : String} (same : payload.guid = draw.guid)
      (added : payload.addAccount workplace.services label none = .ok next) : next.guid =
        draw.guid := by
    have applied : (Transition.addAccount label none).apply workplace.services payload = .ok next :=
      added
    exact (kept_of_apply applied).1.trans same
  exact (Search.Both.run adds ⟨isFirst, isFirst⟩ ran).kept

theorem payload_of_saveNew {surroundings : Surroundings} {payload : Payload}
    {password email : String} {committed : Committed}
    (saved : (wallet.synchronizer.saveNew surroundings store payload password email).result =
      .ok committed) :
    committed.payload = payload ∧
      (wallet.settle (wallet.synchronizer.saveNew surroundings store payload password
        email)).wallet.payload = .ok committed.payload := by
  obtain ⟨samePayload, _, _, left⟩ := Synchronizer.saveNew_eq_ok saved
  refine ⟨samePayload, payload_of_committed ?_⟩
  rw [settle, left.attempt_eq]
  rfl

section

variable {first : Payload} {search : Search} (restored : Phrase.restore phrase = .ok entropy)
  (isFirst : Payload.hierarchical workplace.services.keys draw.guid draw.sharedKey label entropy
    workplace.config.iterations = .ok first)
  (ran : Search.run workplace label Search.fuel (.start first) = .ok search)
  (email password : String)

include restored isFirst ran

theorem recover_of_run : wallet.recover workplace store draw phrase label email password =
    { wallet.settle (wallet.synchronizer.saveNew workplace.surroundings store search.kept
        password email) with
      requests := search.requests } := by
  simp only [recover, restored, isFirst, ran, liftError_ok, bind_ok]

theorem recover_succeeds (canRecover : CanRecover workplace store draw label) :
    ∃ committed, (wallet.recover workplace store draw phrase label email password).result =
        .ok committed ∧
      (wallet.recover workplace store draw phrase label email password).wallet.payload =
        .ok committed.payload ∧
      committed.payload = search.kept := by
  obtain ⟨device, hasDevice⟩ := canRecover.hasDevice
  have hasDevice : workplace.surroundings.device = some device := hasDevice
  have isRestored : restored? workplace draw phrase label = some search.kept := by
    simp [restored?, restored, isFirst, ran, Except.toOption]
  have valid := valid_restored canRecover.positive canRecover.named canRecover.keyed isRestored
  have isNew : store.record? search.kept.guid = none :=
    guid_of_restored isRestored ▸ canRecover.isNew
  obtain ⟨committed, saved, samePayload⟩ :=
    wallet.synchronizer.saveNew_succeeds password email canRecover.encrypts hasDevice valid
      canRecover.noFailure isNew
  rw [recover_of_run restored isFirst ran]
  exact ⟨committed, saved, (payload_of_saveNew saved).2, samePayload⟩

end

/-- What is recovered and stored is a wallet with the accounts up to one that is the first, or whose
legacy key was used, and behind which enough others are unused. -/
theorem recover_finds (canRecover : CanRecover workplace store draw label)
    (restored : Phrase.restore phrase = .ok entropy) (stretched : Phrase.seedOf entropy = .ok seed)
    (reports : workplace.indexer.Reports used) {count : Nat} (positive : 0 < count)
    (hasAccounts : workplace.services.keys.HasAccounts seed
      (count + workplace.config.recoveryGap.toNat))
    (nothingElse : ∀ i, count ≤ i → ¬ workplace.services.keys.Used seed used i)
    (email password : String) :
    ∃ committed last, (wallet.recover workplace store draw phrase label email password).result =
        .ok committed ∧
      (wallet.recover workplace store draw phrase label email password).wallet.payload =
        .ok committed.payload ∧
      committed.payload.Restored workplace.services.keys entropy seed (last + 1) ∧
      (last = 0 ∨ workplace.services.keys.Used seed used last) ∧
      ∀ i, last < i → i ≤ last + workplace.config.recoveryGap.toNat →
        ¬ workplace.services.keys.Used seed used i := by
  obtain ⟨pair, made⟩ := hasAccounts.2 0 (by omega)
  obtain ⟨first, isFirst, hasFirst⟩ := Payload.restored_hierarchical draw.guid draw.sharedKey
    workplace.config.iterations stretched made canRecover.labelled
  have start : (Search.start first).Found workplace.services.keys entropy seed used 0 0 :=
    ⟨hasFirst, hasFirst, rfl, .inl rfl, fun i above atMost => by omega⟩
  have enough : count + workplace.config.recoveryGap.toNat ≤ 0 + 1 + Search.fuel := by
    have := hasAccounts.1
    unfold Search.fuel
    omega
  obtain ⟨search, last, looked, ran, found, gap⟩ :=
    start.run reports stretched canRecover.labelled positive hasAccounts nothingElse enough
  obtain ⟨committed, saved, leaves, samePayload⟩ :=
    recover_succeeds restored isFirst ran email password canRecover
  refine ⟨committed, last, saved, leaves, samePayload ▸ found.kept, found.isUsed,
    fun i above atMost => ?_⟩
  exact found.unused i above (Nat.le_trans atMost gap)

/-- Recovery restores the accounts whose legacy keys are in use. Of a wallet that has come about
from a new one, let the backup phrase be revealed, and let an indexer report transactions of some
keys of its accounts, and of no others. With the same source of keys, the phrase recovers a wallet
that has every account up to one whose legacy key was used, at its position and with its legacy key,
unless there is a run of unused accounts before it that ends the search; and it has no account
behind the last such one, but always the first. What was used by segwit keys only does not
count. -/
theorem Stems.recovery_restores_accounts (stems : Stems cipher keys known wallet)
    (inverts : cipher.Inverts) (isPayload : wallet.payload = .ok payload)
    (tellsApart : cipher.TellsApart known payload.sharedKey payload.iterations)
    {home : Workplace} (sameCipher : home.services.cipher = cipher)
    (secondKnown : ∀ other, second = some other → known other)
    (revealed : wallet.revealPhrase home second = .ok phrase)
    (sameKeys : workplace.services.keys = keys) (tellsPathsApart : keys.TellsPathsApart)
    (hasAccounts : ∀ entropy seed, Phrase.restore phrase = .ok entropy →
      Phrase.seedOf entropy = .ok seed →
      keys.HasAccounts seed (payload.accounts.length + workplace.config.recoveryGap.toNat))
    (reports : workplace.indexer.Reports used)
    (nothingElse : ∀ key, used key →
      ∃ account ∈ payload.accounts, ∃ scheme, account.xpub? scheme = some key)
    (canRecover : CanRecover workplace store draw label) (email password : String) :
    ∃ committed, (initial.recover workplace store draw phrase label email password).result =
        .ok committed ∧
      (initial.recover workplace store draw phrase label email password).wallet.payload =
        .ok committed.payload ∧
      (∀ (last : Nat) (account : Account), payload.accounts[last]? = some account →
        account.UsedUnder .legacy used →
        payload.NoRunBefore (fun account => account.UsedUnder .legacy used)
          workplace.config.recoveryGap.toNat last →
          ∀ i ≤ last, ∃ original restored xpub, payload.accounts[i]? = some original ∧
            committed.payload.accounts[i]? = some restored ∧ original.xpub? .legacy = some xpub ∧
            restored.xpub? .legacy = some xpub) ∧
      (committed.payload.accounts.length = 1 ∨ ∃ account,
        payload.accounts[committed.payload.accounts.length - 1]? = some account ∧
          account.UsedUnder .legacy used) := by
  subst sameCipher sameKeys
  obtain ⟨old, isCommitted, rfl⟩ := payload_eq_ok isPayload
  have valid := stems.reached.arises.valid old isCommitted
  obtain ⟨entropy, held, stemsFrom⟩ := stems.stemsFrom inverts isPayload tellsApart
  obtain ⟨seed, stretched⟩ := stemsFrom.exists_seed valid
  have shown : old.payload.revealPhrase home.services.cipher second = .ok phrase := by
    rwa [revealPhrase, isPayload, bind_ok] at revealed
  have restored := stemsFrom.restore_of_revealPhrase tellsApart secondKnown shown
  obtain ⟨committed, final, recovered, leaves, found, isUsed, unused⟩ := recover_finds canRecover
    restored stretched reports (stemsFrom.accounts_pos valid)
    (hasAccounts entropy seed restored stretched)
    (fun _ => stemsFrom.unused_beyond stretched tellsPathsApart nothingElse) email password
  refine ⟨committed, recovered, leaves, fun last account isLast lastUsed noRun i atMost => ?_, ?_⟩
  · have within := stemsFrom.le_of_noRunBefore stretched isLast lastUsed noRun unused
    have inRange : i < old.payload.accounts.length :=
      Nat.lt_of_le_of_lt atMost (List.getElem?_eq_some_iff.mp isLast).1
    have isKept : i < committed.payload.accounts.length := by
      rw [found.length]
      omega
    have isOriginal := List.getElem?_eq_getElem inRange
    have isRestored := List.getElem?_eq_getElem isKept
    obtain ⟨xpub, originalXpub, restoredXpub⟩ :=
      stemsFrom.sameLegacy stretched found isOriginal isRestored
    exact ⟨_, _, xpub, isOriginal, isRestored, originalXpub, restoredXpub⟩
  · rw [found.length]
    refine isUsed.imp (fun isFirst => by rw [isFirst]) fun isUsedFinal => ?_
    have inRange : final < old.payload.accounts.length := Nat.lt_of_not_le fun beyond =>
      stemsFrom.unused_beyond stretched tellsPathsApart nothingElse beyond isUsedFinal
    have isFinal := List.getElem?_eq_getElem inRange
    exact ⟨_, isFinal, (stemsFrom.usedUnder_legacy stretched isFinal).mpr isUsedFinal⟩

end Wallet

/-! ## A wallet with two accounts -/

namespace Toy

theorem length_schemeName (scheme : Scheme) : (toString scheme.name).toList.length = 6 := by
  cases scheme <;> rfl

theorem keySource_tellsPathsApart : keySource.TellsPathsApart := by
  intro seed scheme other number otherNumber pair otherPair made otherMade same
  have sameScheme : scheme = other := by
    obtain ⟨_, _, isPair⟩ := bind_eq_ok.mp made
    obtain ⟨_, _, isOther⟩ := bind_eq_ok.mp otherMade
    cases isPair
    cases isOther
    have sameText := congrArg String.toList same
    simp only [String.toList_append, List.append_assoc, List.append_cancel_left_eq] at sameText
    have sameLength := (length_schemeName scheme).trans (length_schemeName other).symm
    have sameName := (List.append_inj sameText sameLength).1
    cases scheme <;> cases other <;> first | rfl | exact absurd sameName (by decide)
  subst sameScheme
  exact ⟨rfl, keySource_tellsApart made otherMade same⟩

theorem hasAccounts (seed : Bytes) {count : Nat} (inRange : count ≤ 0x80000000) :
    keySource.HasAccounts seed count :=
  ⟨Nat.le_trans inRange (by decide), fun _ below =>
    accountKeys_succeeds seed .legacy (ofNat_lt (Nat.lt_of_lt_of_le below inRange))⟩

def indexerOf (xpub : String) : Indexer where
  balances keys := .ok (if xpub ∈ keys then SortedMap.empty.insert xpub ⟨5, 5, 1⟩ else .empty)
  usage _ := .ok .empty

theorem indexerOf_reports (xpub : String) : (indexerOf xpub).Reports fun key => key = xpub := by
  intro keys
  refine ⟨_, rfl, fun key => ?_⟩
  split
  · rename_i isAsked
    have entries : (SortedMap.empty.insert xpub (⟨5, 5, 1⟩ : Balance)).entries =
      [(xpub, ⟨5, 5, 1⟩)] := rfl
    rw [entries]
    constructor
    · rintro ⟨balance, isIn, _⟩
      cases List.mem_singleton.mp isIn
      exact ⟨isAsked, rfl⟩
    · rintro ⟨_, rfl⟩
      exact ⟨_, List.mem_singleton_self _, by decide⟩
  · rename_i notAsked
    refine iff_of_false ?_ ?_
    · rintro ⟨_, isIn, _⟩
      cases isIn
    · rintro ⟨isAsked, rfl⟩
      exact notAsked isAsked

theorem announces_none {synchronizer : Synchronizer}
    (unreserved : ∀ xpub scheme, (synchronizer.allocator.state xpub scheme).reserved.find?
      0xffffffff = none)
    (payload : Payload) : ∃ announced, synchronizer.announcedAddresses quiet.surroundings payload =
      .ok announced := by
  refine ⟨_, Synchronizer.announcedAddresses_eq_ok.mpr ⟨fun entry _ => ?_, rfl⟩⟩
  unfold Synchronizer.accountAddresses
  split
  · exact ⟨_, rfl⟩
  · rename_i scheme xpub _
    obtain ⟨start, isNext⟩ := Allocator.exists_nextFree (unreserved xpub scheme)
    have none : min quiet.surroundings.lookahead.toNat (0xffffffff - start.toNat) = 0 :=
      Nat.zero_min _
    refine ⟨[], ?_⟩
    rw [isNext, bind_ok, KeySource.receiveAddresses, none]
    rfl

/-- The wallet has come about with transparent collaborators and without second passwords, and is in
step with the store. -/
structure Stands (wallet : Wallet) (store : Store) (committed : Committed) : Prop where
  stems : wallet.Stems Toy.cipher keySource fun _ => False
  inStep : wallet.synchronizer.InStep store committed
  unlabelled : ∀ account ∈ committed.payload.accounts, account.addressLabels = .empty

theorem Stands.unreserved {wallet : Wallet} {store : Store} {committed : Committed}
    (stands : Stands wallet store committed) (xpub : String) (scheme : Scheme) :
    (wallet.synchronizer.allocator.state xpub scheme).reserved.find? 0xffffffff = none := by
  have kept := stands.stems.reached.keeps keySource_tellsApart committed stands.inStep.isCommitted
  exact kept.unreserved (fun account isIn => stands.unlabelled account isIn ▸ rfl) xpub scheme

theorem Stands.change {wallet : Wallet} {store : Store} {committed : Committed} {next : Payload}
    {command : Wallet.Command} {announce : Bool} (stands : Stands wallet store committed)
    (transition : Transition)
    (isCall : wallet.call? quiet ⟨"", "", []⟩ command =
      some (.change quiet.services announce transition))
    (goesOn : command.GoesOn) (givenNone : command.second? = none)
    (applied : transition.apply services committed.payload = .ok next)
    (keepsLabels : transition.labels = false)
    (watchOnly : ∀ entry, transition = .addImported entry → entry.key = none) :
    ∃ later store new, Stands later store new ∧ new.payload = next := by
  have valid := stands.stems.reached.arises.valid committed stands.inStep.isCommitted
  have isGiven : command.IsGiven fun _ => False :=
    fun _ isAsked => nomatch givenNone.symm.trans isAsked
  obtain ⟨new, isNew, _, inStep⟩ := Wallet.change_in_step transition isCall stands.inStep
    cipher_encrypts rfl valid applied watchOnly fun _ => announces_none stands.unreserved _
  refine ⟨_, _, new, ⟨.performed _ _ stands.stems rfl rfl goesOn isGiven, inStep,
    fun account isIn => ?_⟩, isNew⟩
  obtain ⟨_, _, _, effect⟩ := exists_effect applied
  obtain ⟨i, isAccount⟩ := List.getElem?_of_mem (isNew ▸ isIn)
  rcases effect.labels (Payload.sound_of_valid valid) keepsLabels isAccount with
    ⟨old, isOld, same⟩ | ⟨_, unlabelled⟩
  · exact same.trans (stands.unlabelled old (List.mem_of_getElem? isOld))
  · exact unlabelled

theorem tellsApart_of_none {sharedKey : String} {iterations : UInt32} :
    Toy.cipher.TellsApart (fun _ => False) sharedKey iterations :=
  ⟨fun _ _ isKnown => isKnown.elim, fun _ _ isKnown => isKnown.elim⟩

theorem two_accounts_stand : ∃ (wallet : Wallet) (store : Store) (committed : Committed)
    (entropy seed : Bytes), Stands wallet store committed ∧ Phrase.seedOf entropy = .ok seed ∧
      committed.payload.Restored keySource entropy seed 2 := by
  obtain ⟨first, account, _, starts⟩ := workplace_hosts.starts
  have stands : Stands (created workplace).wallet (created workplace).store first := by
    refine ⟨.created _ _ _ _ _ rfl rfl, starts.inStep, fun own isIn => ?_⟩
    rw [starts.accounts] at isIn
    rw [List.mem_singleton.mp isIn]
    exact starts.unlabelled
  have made := starts.made
  have ⟨seed, stretched⟩ : ∃ seed, Phrase.seedOf (List.replicate 16 0) = .ok seed := ⟨_, rfl⟩
  obtain ⟨pair, derived⟩ :=
    accountKeys_succeeds seed .legacy (by decide : UInt32.ofNat 0 < 0x80000000)
  obtain ⟨other, isFirst, restored⟩ := Payload.restored_hierarchical "guid" "key" 5000
    stretched derived (by decide : Text.allBlank "main" = false)
  cases made.symm.trans isFirst
  obtain ⟨pair, derived⟩ :=
    accountKeys_succeeds seed .legacy (by decide : UInt32.ofNat 1 < 0x80000000)
  have derived : services.keys.accountKeys seed .legacy (UInt32.ofNat 1) = .ok pair := derived
  obtain ⟨second, added, restored, _⟩ := restored.addAccount stretched
    (by decide : Text.allBlank "spare" = false) (by decide : 1 < 0x100000000) derived
  have applied : (Transition.addAccount "spare" none).apply services first.payload = .ok second :=
    added
  have goesOn : (Wallet.Command.addAccount "spare" none).GoesOn := trivial
  obtain ⟨wallet, store, saved, stands, rfl⟩ := stands.change (.addAccount "spare" none) rfl goesOn
    rfl applied rfl fun _ isOther => nomatch isOther
  exact ⟨wallet, store, saved, _, seed, stands, stretched, restored⟩

/-- A wallet that was created, was given a second account, and was upgraded to segwit. -/
theorem upgraded_wallet_stems : ∃ (wallet : Wallet) (payload : Payload) (phrase : String),
    wallet.Stems Toy.cipher keySource (fun _ => False) ∧ wallet.payload = .ok payload ∧
      payload.version = .v4 ∧
      payload.accounts.length = 2 ∧ wallet.revealPhrase quiet none = .ok phrase := by
  obtain ⟨wallet, store, saved, _, seed, stands, stretched, restored⟩ := two_accounts_stand
  obtain ⟨body, onlyBody, isSeed⟩ := restored.body
  have isBody := Payload.body?_of_bodies onlyBody
  have length : body.accounts.length = 2 := Payload.accounts_of_body isBody ▸ restored.length
  obtain ⟨upgraded, isUpgraded, isFourth, sameLength⟩ := upgradeToSegwit_succeeds restored.isThird
    restored.isPlain onlyBody (Body.revealSeed_of_plain isSeed stretched) (by rw [length]; decide)
  have applied : (Transition.upgradeToSegwit none).apply services saved.payload = .ok upgraded :=
    isUpgraded
  have goesOn : (Wallet.Command.upgradeToSegwit none).GoesOn := trivial
  obtain ⟨wallet, store, last, stands, rfl⟩ := stands.change (.upgradeToSegwit none) rfl goesOn
    rfl applied rfl fun _ isOther => by cases isOther
  have isPayload := Wallet.payload_of_committed stands.inStep.isCommitted
  obtain ⟨entropy, held, stemsFrom⟩ :=
    stands.stems.stemsFrom cipher_inverts isPayload tellsApart_of_none
  obtain ⟨phrase, _, revealed⟩ := stemsFrom.rooted.revealPhrase stemsFrom.hierarchical
  cases held with
  | some second => exact (stemsFrom.ruled.isKnown second rfl).elim
  | none =>
    refine ⟨wallet, last.payload, phrase, stands.stems, isPayload, isFourth,
      sameLength.trans length, ?_⟩
    rw [Wallet.revealPhrase, isPayload, bind_ok]
    exact revealed

/-- A place where a wallet can be recovered, and where one key is known to have been used. -/
def lookout (xpub : String) : Workplace := { workplace with indexer := indexerOf xpub }

theorem recoveryGap_lookout (xpub : String) : (lookout xpub).config.recoveryGap.toNat = 5 := rfl

theorem noRunBefore_lookout (payload : Payload) (active : Account → Prop) (xpub : String) :
    payload.NoRunBefore active (lookout xpub).config.recoveryGap.toNat 1 :=
  Payload.noRunBefore_second (by rw [recoveryGap_lookout]; decide)

theorem canRecover (xpub : String) :
    Wallet.CanRecover (lookout xpub) .empty ⟨"other", "key", []⟩ "main" where
  encrypts := cipher_encrypts
  hasDevice := ⟨_, rfl⟩
  positive := (by decide : 0 < workplace.config.iterations)
  named := by decide
  keyed := by decide
  labelled := by decide
  noFailure := rfl
  isNew := rfl

end Toy

namespace Wallet

/-- The wallet that was created, was given a second account and was upgraded is recovered with both
accounts when the legacy key of the second one was used. -/
theorem recovery_restores_accounts_upgraded :
    ∃ (wallet : Wallet) (payload : Payload) (phrase xpub : String)
    (committed : Committed) (original restored : Account),
    wallet.Stems Toy.cipher Toy.keySource (fun _ => False) ∧ wallet.payload = .ok payload ∧
      payload.version = .v4 ∧ wallet.revealPhrase Toy.quiet none = .ok phrase ∧
      (initial.recover (Toy.lookout xpub) .empty ⟨"other", "key", []⟩ phrase "main" "mail"
        "password").result = .ok committed ∧
      payload.accounts[1]? = some original ∧ committed.payload.accounts[1]? = some restored ∧
      original.xpub? .legacy = some xpub ∧ restored.xpub? .legacy = some xpub := by
  obtain ⟨wallet, payload, phrase, stems, isPayload, isFourth, length, revealed⟩ :=
    Toy.upgraded_wallet_stems
  obtain ⟨entropy, held, stemsFrom⟩ :=
    stems.stemsFrom Toy.cipher_inverts isPayload Toy.tellsApart_of_none
  have isAccount := List.getElem?_eq_getElem (by rw [length]; decide : 1 < payload.accounts.length)
  obtain ⟨_, pair, _, _, hasXpub⟩ := stemsFrom.legacyXpub isAccount
  have noneKnown : ∀ other, (none : Option String) = some other → False :=
    fun _ isSome => nomatch isSome
  have nothingElse : ∀ key, key = pair.xpub →
      ∃ account ∈ payload.accounts, ∃ scheme, account.xpub? scheme = some key := by
    rintro key rfl
    exact ⟨_, List.mem_of_getElem? isAccount, .legacy, hasXpub⟩
  obtain ⟨committed, recovered, _, restores, _⟩ := stems.recovery_restores_accounts
    Toy.cipher_inverts isPayload Toy.tellsApart_of_none rfl noneKnown revealed rfl
    Toy.keySource_tellsPathsApart (fun _ seed _ _ =>
      Toy.hasAccounts seed (by rw [length, Toy.recoveryGap_lookout]; decide))
    (Toy.indexerOf_reports pair.xpub) nothingElse (Toy.canRecover pair.xpub) "mail" "password"
  obtain ⟨original, restored, xpub, isOriginal, isRestored, originalXpub, restoredXpub⟩ :=
    restores 1 _ isAccount ⟨_, hasXpub, rfl⟩ (Toy.noRunBefore_lookout payload _ pair.xpub) 1
      (Nat.le_refl 1)
  cases isAccount.symm.trans isOriginal
  cases hasXpub.symm.trans originalXpub
  exact ⟨wallet, payload, phrase, _, committed, _, restored, stems, isPayload, isFourth, revealed,
    recovered, isAccount, isRestored, hasXpub, restoredXpub⟩

/-- The same wallet is recovered with its first account alone when the second one was used, but by
its segwit key. -/
theorem recovery_misses_segwit_account :
    ∃ (wallet : Wallet) (payload : Payload) (phrase xpub : String) (account : Account)
    (committed : Committed),
    wallet.Stems Toy.cipher Toy.keySource (fun _ => False) ∧ wallet.payload = .ok payload ∧
      payload.version = .v4 ∧
      wallet.revealPhrase Toy.quiet none = .ok phrase ∧ payload.accounts[1]? = some account ∧
      account.xpub? .segwit = some xpub ∧
      (Toy.lookout xpub).indexer.Reports (fun key => key = xpub) ∧
      payload.NoRunBefore (fun account => ∃ scheme, account.UsedUnder scheme fun key => key = xpub)
        (Toy.lookout xpub).config.recoveryGap.toNat 1 ∧
      (initial.recover (Toy.lookout xpub) .empty ⟨"other", "key", []⟩ phrase "main" "mail"
        "password").result = .ok committed ∧
      committed.payload.accounts[1]? = none := by
  obtain ⟨wallet, payload, phrase, stems, isPayload, isFourth, length, revealed⟩ :=
    Toy.upgraded_wallet_stems
  obtain ⟨entropy, held, stemsFrom⟩ :=
    stems.stemsFrom Toy.cipher_inverts isPayload Toy.tellsApart_of_none
  have isAccount := List.getElem?_eq_getElem (by rw [length]; decide : 1 < payload.accounts.length)
  have isCarried : Scheme.segwit ∈ Scheme.allFor payload.version := by rw [isFourth]; decide
  obtain ⟨seed, pair, stretched, made, hasXpub, _⟩ :=
    stemsFrom.rooted.revealXpriv isAccount isCarried
  have unused (i : Nat) : ¬ Toy.keySource.Used seed (fun key => key = pair.xpub) i := by
    rintro ⟨_, other, otherMade, same⟩
    cases (Toy.keySource_tellsPathsApart otherMade made same).1
  have shown : payload.revealPhrase Toy.cipher none = .ok phrase := by
    rwa [revealPhrase, isPayload, bind_ok] at revealed
  have noneKnown : ∀ other, (none : Option String) = some other → False :=
    fun _ isSome => nomatch isSome
  have restored := stemsFrom.restore_of_revealPhrase Toy.tellsApart_of_none noneKnown shown
  obtain ⟨committed, last, recovered, _, found, isUsed, _⟩ := recover_finds
    (Toy.canRecover pair.xpub) restored stretched (Toy.indexerOf_reports pair.xpub) Nat.one_pos
    (Toy.hasAccounts seed (by rw [Toy.recoveryGap_lookout]; decide)) (fun i _ => unused i)
    "mail" "password"
  have isFirst : last = 0 := isUsed.resolve_right (unused last)
  refine ⟨wallet, payload, phrase, pair.xpub, _, committed, stems, isPayload, isFourth, revealed,
    isAccount, hasXpub, Toy.indexerOf_reports pair.xpub,
    Toy.noRunBefore_lookout payload _ pair.xpub, recovered, ?_⟩
  have onlyOne : committed.payload.accounts.length = 1 :=
    found.length.trans (congrArg (· + 1) isFirst)
  exact List.getElem?_eq_none (Nat.le_of_eq onlyOne)

end Wallet

end Coffer
