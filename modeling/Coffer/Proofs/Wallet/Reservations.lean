import Coffer.Proofs.Wallet.New
import Coffer.Proofs.Wallet.Refusals
/-!
# Reserved addresses

What an account reserves on its default chain are its labels, and nothing is reserved on its other
chains. So the next index is never one that has a label already, and the indexes that are handed out
one after the other are different.
-/

namespace Coffer

namespace Payload

variable {keys : KeySource} {payload next : Payload} {position : UInt64} {index : UInt32}
  {label : String}

def KeepsLabels (before after : Payload) : Prop :=
  ∀ position account, before.account position = .ok account →
    ∃ later, after.account position = .ok later ∧
    ∀ index label, account.addressLabels.find? index = some label →
      later.addressLabels.find? index = some label

theorem KeepsLabels.refl (payload : Payload) : payload.KeepsLabels payload :=
  fun _ account isAccount => ⟨account, isAccount, fun _ _ => id⟩

theorem KeepsLabels.trans {middle : Payload} (first : payload.KeepsLabels middle)
    (second : middle.KeepsLabels next) : payload.KeepsLabels next := by
  intro position account isAccount
  obtain ⟨between, isBetween, kept⟩ := first position account isAccount
  obtain ⟨later, isLater, stillKept⟩ := second position between isBetween
  exact ⟨later, isLater, fun index label isLabel =>
    stillKept index label (kept index label isLabel)⟩

theorem ChangesTo.keepsLabels (changed : payload.ChangesTo keys next)
    (valid : payload.validate = .ok ()) : payload.KeepsLabels next := by
  rcases changed with rfl | ⟨services, transition, _, applied⟩
  · exact .refl _
  · obtain ⟨_, _, _, effect⟩ := exists_effect applied
    intro position account isAccount
    obtain ⟨later, isLater, extended⟩ :=
      (effect.extends (sound_of_valid valid)).accounts _ _ (account_eq_ok.mp isAccount)
    exact ⟨later, account_eq_ok.mpr isLater, extended.labels⟩

theorem label_of_labelAddress (labelled : payload.labelAddress position index label = .ok next) :
    ∃ account, next.account position = .ok account ∧
      account.addressLabels.find? index = some label := by
  simp only [labelAddress, bind_eq_ok, liftError_eq_ok, Account.withAddressLabel_eq_ok] at labelled
  obtain ⟨old, isOld, account, ⟨_, _, isAccount⟩, changed⟩ := labelled
  obtain ⟨body, isBody, rfl⟩ := withAccount_eq_ok changed
  rw [account_eq_ok, accounts_of_body isBody] at isOld
  refine ⟨account, account_eq_ok.mpr ?_, ?_⟩
  · rw [accounts_of_body rfl]
    exact List.getElem?_set_self (List.getElem?_eq_some_iff.mp isOld).1
  · rw [isAccount, SortedMap.find?_insert, if_pos rfl]

theorem version_of_labelAddress
    (labelled : payload.labelAddress position index label = .ok next) :
    next.version = payload.version := by
  obtain ⟨_, _, changed⟩ := bind_eq_ok.mp labelled
  obtain ⟨_, _, changed⟩ := bind_eq_ok.mp changed
  obtain ⟨_, _, rfl⟩ := withAccount_eq_ok changed
  rfl

end Payload

namespace Wallet

variable {keys : KeySource} {wallet later : Wallet} {workplace : Workplace} {store : Store}
  {position : UInt64} {label : String} {index : UInt32} {scheme : Scheme} {xpub : String}

/-- Later on, receive counters have moved forward if at all, and accounts have at least the labels
that they had. -/
structure Continues (wallet later : Wallet) : Prop where
  forward : ∀ xpub scheme, (wallet.synchronizer.allocator.state xpub scheme).nextReceive ≤
    (later.synchronizer.allocator.state xpub scheme).nextReceive
  labels : ∀ payload, wallet.payload = .ok payload → ∃ next, later.payload = .ok next ∧
    payload.KeepsLabels next

theorem Continues.refl (wallet : Wallet) : wallet.Continues wallet :=
  ⟨fun _ _ => UInt32.le_refl _, fun payload isPayload => ⟨payload, isPayload, .refl payload⟩⟩

theorem Continues.trans {middle : Wallet} (first : wallet.Continues middle)
    (second : middle.Continues later) : wallet.Continues later where
  forward :=
    fun xpub scheme => UInt32.le_trans (first.forward xpub scheme) (second.forward xpub scheme)
  labels := by
    intro payload isPayload
    obtain ⟨between, isBetween, kept⟩ := first.labels payload isPayload
    obtain ⟨next, isNext, stillKept⟩ := second.labels between isBetween
    exact ⟨next, isNext, kept.trans stillKept⟩

theorem Continues.isLabelled {payload next : Payload} {account last : Account}
    (continues : wallet.Continues later) (isPayload : wallet.payload = .ok payload)
    (isAccount : payload.account position = .ok account)
    (isNext : later.payload = .ok next) (isLast : next.account position = .ok last)
    (isLabelled : (account.addressLabels.find? index).isSome = true) :
    (last.addressLabels.find? index).isSome = true := by
  obtain ⟨other, isOther, kept⟩ := continues.labels payload isPayload
  cases isNext.symm.trans isOther
  obtain ⟨found, isFound, labels⟩ := kept position account isAccount
  cases isLast.symm.trans isFound
  obtain ⟨label, isLabel⟩ := Option.isSome_iff_exists.mp isLabelled
  rw [labels index label isLabel]
  rfl

theorem Step.continues (step : Step keys wallet later) (keeps : wallet.Keeps keys) :
    wallet.Continues later := by
  cases step with
  | rested same forward =>
    exact ⟨fun xpub scheme => (forward xpub scheme).2,
      fun payload isPayload => ⟨payload, (payload_congr same).trans isPayload, .refl payload⟩⟩
  | refreshed wasCommitted same forward _ synced =>
    have samePayload := payload_congr (same.trans wasCommitted.symm)
    refine ⟨fun xpub scheme => ?_, fun payload isPayload =>
      ⟨payload, samePayload.trans isPayload, .refl payload⟩⟩
    rw [synced, Allocator.syncLabels, Allocator.nextReceive_foldl_syncAccount]
    exact (forward xpub scheme).2
  | saved wasCommitted isNew changed valid synced =>
    refine ⟨fun xpub scheme => ?_, fun payload isPayload => ⟨_, payload_of_committed isNew, ?_⟩⟩
    · rw [synced, Allocator.syncLabels, Allocator.nextReceive_foldl_syncAccount]
      exact UInt32.le_refl _
    · cases (payload_of_committed wasCommitted).symm.trans isPayload
      exact changed.keepsLabels (keeps _ wasCommitted).valid

theorem Leads.continues (leads : Leads keys wallet later) (tellsApart : keys.TellsApart)
    (keeps : wallet.Keeps keys) : wallet.Continues later ∧ later.Keeps keys := by
  induction leads with
  | refl => exact ⟨.refl wallet, keeps⟩
  | @perform later workplace store draw command _ sameKeys goesOn ih =>
    obtain ⟨continues, keeps⟩ := ih
    have step := step_perform later store draw sameKeys goesOn
    exact ⟨continues.trans (step.continues keeps), step.keeps tellsApart keeps⟩

theorem saysReserved_accountChain {cause : WalletError}
    (refused : wallet.accountChain position = .error cause) :
    cause.saysReserved = false := by
  rcases bind_eq_error.mp refused with unloaded | ⟨payload, _, refused⟩
  · rw [payload, Synchronizer.current] at unloaded
    split at unloaded
    · cases unloaded
    · cases unloaded
      rfl
  · rcases bind_eq_error.mp refused with missing | ⟨account, _, refused⟩
    · obtain ⟨_, isMissing, rfl⟩ := liftError_eq_error.mp missing
      exact Payload.saysReserved_account isMissing
    · unfold defaultChain at refused
      split at refused
      · cases refused
      · cases refused
        rfl

/-- A call for the next address picks an index: it is the next one of the account, and the payload
in which it has the label is committed. -/
structure Picks (wallet : Wallet) (workplace : Workplace) (store : Store) (position : UInt64)
    (label : String) (index : UInt32) : Prop where
  isNext : wallet.nextReceivePosition position = .ok index
  labels : ∃ before after, wallet.payload = .ok before ∧
    (wallet.nextReceiveAndReserve workplace store position label).wallet.payload = .ok after ∧
    before.labelAddress position index label = .ok after

theorem Keeps.unlabelled (keeps : wallet.Keeps keys)
    (isNext : wallet.nextReceivePosition position = .ok index) :
    ∃ payload account, wallet.payload = .ok payload ∧ payload.account position = .ok account ∧
      account.addressLabels.find? index = none := by
  obtain ⟨scheme, xpub, isChain, isFree⟩ := nextReceivePosition_eq_ok isNext
  obtain ⟨payload, account, isPayload, isAccount, reserved⟩ :=
    keeps.reserved_of_accountChain isChain
  have first := IndexState.firstFree?_eq_some.mp (Allocator.nextFree_eq_ok.mp isFree)
  exact ⟨payload, account, isPayload, isAccount, reserved ▸ first.isFree⟩

theorem saysReserved_nextOn {cause : WalletError}
    (refused : wallet.nextOn position .receive = .error cause) :
    cause.saysReserved = false := by
  rcases bind_eq_error.mp refused with noChain | ⟨⟨scheme, xpub⟩, _, endless⟩
  · exact saysReserved_accountChain noChain
  · rcases bind_eq_error.mp endless with endless | ⟨_, _, impossible⟩
    · obtain ⟨_, rfl⟩ := Allocator.nextFree_eq_error.mp endless
      rfl
    · cases impossible

theorem Keeps.saysReserved_nextReceiveAndReserve (keeps : wallet.Keeps keys) {cause : WalletError}
    (refused : (wallet.nextReceiveAndReserve workplace store position label).result =
      .error cause) :
    cause.saysReserved = false := by
  simp only [nextReceiveAndReserve] at refused
  split at refused
  · rename_i noNext
    cases refused
    exact saysReserved_nextOn noNext
  · rename_i scheme xpub index isNext
    obtain ⟨isChain, isFree⟩ := nextOn_eq_ok.mp isNext
    rcases bind_eq_error.mp refused with unsaved | ⟨_, _, underived⟩
    · apply Bool.eq_false_iff.mpr
      intro isReserved
      obtain ⟨committed, _, isCommitted, unbuilt⟩ := Synchronizer.built_of_mutate unsaved isReserved
      obtain ⟨account, isAccount, isLabelled⟩ := Payload.reserved_of_labelAddress unbuilt isReserved
      obtain ⟨payload, other, isPayload, isOther, unlabelled⟩ :=
        keeps.unlabelled ((nextReceivePosition_of_chain isChain).trans isFree)
      cases (payload_of_committed isCommitted).symm.trans isPayload
      cases isAccount.symm.trans isOther
      rw [unlabelled] at isLabelled
      cases isLabelled
    · obtain ⟨_, _, rfl⟩ := liftError_eq_error.mp underived
      rfl

/-- A call for the next address that succeeds picks the index of the address that it tells. -/
theorem picks_of_nextReceiveAndReserve {address : String}
    (told : (wallet.nextReceiveAndReserve workplace store position label).result = .ok address) :
    wallet.nextReceiveAddress workplace position = .ok address ∧ ∃ index scheme xpub,
      wallet.Picks workplace store position label index ∧
      wallet.accountChain position = .ok (scheme, xpub) ∧
      workplace.services.keys.addressAt xpub scheme .receive index = .ok address := by
  cases next : wallet.nextOn position .receive with
  | error cause =>
    rw [nextReceiveAndReserve, next] at told
    cases told
  | ok spot =>
    obtain ⟨scheme, xpub, index⟩ := spot
    obtain ⟨isChain, isFree⟩ := nextOn_eq_ok.mp next
    obtain ⟨sameWallet, _, sameResult⟩ := nextReceiveAndReserve_of_next workplace store label next
    obtain ⟨committed, saved, derived⟩ := bind_eq_ok.mp (sameResult.symm.trans told)
    have isNext := (nextReceivePosition_of_chain isChain).trans isFree
    refine ⟨?_, index, scheme, xpub, ⟨isNext, ?_⟩, isChain, liftError_eq_ok.mp derived⟩
    · have isFree : wallet.synchronizer.allocator.nextFree xpub scheme = .ok index := isFree
      simp only [nextReceiveAddress, isChain, isFree, bind_ok]
      exact derived
    · rcases wallet.synchronizer.mutate_cases workplace.surroundings store false (fun payload _ =>
          payload.labelAddress position index label) with
        ⟨cause, failed, _⟩ | ⟨old, new, password, wasCommitted, built, _, _, commits⟩
      · cases saved.symm.trans failed
      · refine ⟨old.payload, new.payload, payload_of_committed wasCommitted, ?_, built⟩
        apply payload_of_committed
        rw [sameWallet, reserving, mutate, settle, commits]
        rfl

/-- Later on the same chain, the counter has moved forward if at all, what was reserved still is,
and so is an index that was picked. -/
theorem Picks.lasts (picks : wallet.Picks workplace store position label index)
    (tellsApart : keys.TellsApart) (keeps : wallet.Keeps keys)
    (sameKeys : workplace.services.keys = keys)
    (leads : Leads keys (wallet.nextReceiveAndReserve workplace store position label).wallet later)
    (isChain : wallet.accountChain position = .ok (scheme, xpub))
    (isLaterChain : later.accountChain position = .ok (scheme, xpub)) :
    (wallet.synchronizer.allocator.state xpub scheme).nextReceive ≤
        (later.synchronizer.allocator.state xpub scheme).nextReceive ∧
      (∀ index, ((wallet.synchronizer.allocator.state xpub scheme).reserved.find? index).isSome =
        true →
        ((later.synchronizer.allocator.state xpub scheme).reserved.find? index).isSome = true) ∧
      ((later.synchronizer.allocator.state xpub scheme).reserved.find? index).isSome = true := by
  have step : Step keys wallet
      (wallet.nextReceiveAndReserve workplace store position label).wallet :=
    step_nextReceiveAndReserve sameKeys
  obtain ⟨further, laterKeeps⟩ := leads.continues tellsApart (step.keeps tellsApart keeps)
  have continues := (step.continues keeps).trans further
  obtain ⟨before, after, isBefore, isAfter, labelled⟩ := picks.labels
  obtain ⟨last, lastAccount, isLast, isLastAccount, lastReserved⟩ :=
    laterKeeps.reserved_of_accountChain isLaterChain
  rw [lastReserved]
  refine ⟨continues.forward _ _, fun reservedIndex isReserved => ?_, ?_⟩
  · obtain ⟨payload, account, isPayload, isAccount, reserved⟩ :=
      keeps.reserved_of_accountChain isChain
    rw [reserved] at isReserved
    exact continues.isLabelled isPayload isAccount isLast isLastAccount isReserved
  · obtain ⟨account, isAccount, isLabelled⟩ := Payload.label_of_labelAddress labelled
    exact further.isLabelled isAfter isAccount isLast isLastAccount (isLabelled ▸ rfl)

/-- Whatever is the next index later on the same chain comes after an index that was picked. -/
theorem Picks.lt_of_leads (picks : wallet.Picks workplace store position label index)
    (tellsApart : keys.TellsApart) (keeps : wallet.Keeps keys)
    (sameKeys : workplace.services.keys = keys)
    (leads : Leads keys (wallet.nextReceiveAndReserve workplace store position label).wallet later)
    (sameChain : later.accountChain position = wallet.accountChain position) {next : UInt32}
    (isNext : later.nextReceivePosition position = .ok next) : index < next := by
  obtain ⟨scheme, xpub, isChain, isFree⟩ := nextReceivePosition_eq_ok picks.isNext
  obtain ⟨_, _, isLaterChain, isLaterFree⟩ := nextReceivePosition_eq_ok isNext
  cases isLaterChain.symm.trans (sameChain.trans isChain)
  obtain ⟨forward, reserves, reservesOwn⟩ :=
    picks.lasts tellsApart keeps sameKeys leads isChain isLaterChain
  exact IndexState.firstFree?_lt (Allocator.nextFree_eq_ok.mp isFree)
    (Allocator.nextFree_eq_ok.mp isLaterFree) forward reserves reservesOwn

/-- Reserved addresses never collide. In every wallet that is reached, the reservations on the
default chain of an account are its labels, and there are none on its other chains. A call for the
next address is never refused because of a reservation. When it succeeds, it has labelled the index
of the address that was to be the next one, which had no label, and whatever index is the next one
later on the same chain is a later one. -/
theorem Reached.reservations_never_collide (reached : Reached keys wallet)
    (tellsApart : keys.TellsApart) :
    (∀ payload, wallet.payload = .ok payload → ∀ account ∈ payload.accounts,
      (∃ xpub, account.defaultXpub? = some xpub ∧
        (wallet.synchronizer.allocator.state xpub account.defaultScheme).reserved =
          account.addressLabels) ∧
      ∀ derivation ∈ account.derivations, derivation.scheme ≠ account.defaultScheme →
        (wallet.synchronizer.allocator.state derivation.xpub derivation.scheme).reserved = .empty) ∧
    ∀ (workplace : Workplace) (store : Store) (position : UInt64) (label : String),
      workplace.services.keys = keys →
      (∀ index existing, (wallet.nextReceiveAndReserve workplace store position label).result ≠
        .error (.validation (.indexAlreadyReserved index existing))) ∧
      (∀ address, (wallet.nextReceiveAndReserve workplace store position label).result =
        .ok address →
        wallet.nextReceiveAddress workplace position = .ok address ∧ ∃ index scheme xpub,
          wallet.Picks workplace store position label index ∧
          wallet.accountChain position = .ok (scheme, xpub) ∧
          workplace.services.keys.addressAt xpub scheme .receive index = .ok address) ∧
      ∀ index, wallet.Picks workplace store position label index →
        (∃ payload account, wallet.payload = .ok payload ∧ payload.account position = .ok account ∧
          account.addressLabels.find? index = none) ∧
        ∀ later, Leads keys (wallet.nextReceiveAndReserve workplace store position
          label).wallet later → later.accountChain position = wallet.accountChain position →
          ∀ next, later.nextReceivePosition position = .ok next → index < next := by
  have keeps := reached.keeps tellsApart
  refine ⟨fun payload isPayload account isIn => ?_,
    fun workplace store position label sameKeys => ⟨?_, ?_, ?_⟩⟩
  · obtain ⟨committed, isCommitted, rfl⟩ := payload_eq_ok isPayload
    have kept := keeps committed isCommitted
    obtain ⟨i, isAccount⟩ := List.getElem?_of_mem isIn
    obtain ⟨number, _, carries⟩ := kept.numbered i account isAccount
    obtain ⟨xpub, hasXpub⟩ := carries.defaultXpub?
    exact ⟨⟨xpub, hasXpub, kept.reserves account isIn _ _ _ (Account.claim?_default hasXpub)⟩,
      fun derivation isOwn isOther =>
        kept.reserves account isIn _ _ _ (Account.claim?_other isOwn isOther)⟩
  · intro index existing refused
    exact nomatch keeps.saysReserved_nextReceiveAndReserve refused
  · exact fun address => picks_of_nextReceiveAndReserve
  · intro index picks
    refine ⟨keeps.unlabelled picks.isNext, fun later leads sameChain next isNext => ?_⟩
    exact picks.lt_of_leads tellsApart keeps sameKeys leads sameChain isNext

/-- A new wallet that is asked for the next address under a label tells the one that it said was the
next, and then says that a later one is. -/
theorem reservations_never_collide_new :
    ∃ (wallet : Wallet) (store : Store) (address : String) (index next : UInt32),
      Reached Toy.keySource wallet ∧
        (wallet.nextReceiveAndReserve Toy.workplace store 0 "rent").result = .ok address ∧
        wallet.nextReceiveAddress Toy.workplace 0 = .ok address ∧
        wallet.nextReceivePosition 0 = .ok index ∧
        (wallet.nextReceiveAndReserve Toy.workplace store 0 "rent").wallet.nextReceivePosition
          0 = .ok next ∧
        index < next := by
  obtain ⟨_, _, path, starts⟩ := Toy.workplace_hosts.starts
  obtain ⟨address, new, _, account, _, tells⟩ := Toy.workplace_hosts.tells starts
  obtain ⟨_, calls⟩ := starts.reached.reservations_never_collide Toy.keySource_tellsApart
  obtain ⟨_, told, later⟩ := calls Toy.workplace (Toy.created Toy.workplace).store 0 "rent" rfl
  obtain ⟨isAddress, index, _, _, picks, _⟩ := told address tells.isTold
  obtain ⟨_, comesAfter⟩ := later index picks
  obtain ⟨isChain, isNext⟩ := nextOn_eq_ok.mp tells.isNext
  have isNext := (nextReceivePosition_of_chain isChain).trans isNext
  exact ⟨_, _, address, index, 1, starts.reached, tells.isTold, isAddress, picks.isNext, isNext,
    comesAfter _ .refl (isChain.trans starts.isChain.symm) 1 isNext⟩

end Wallet

end Coffer
