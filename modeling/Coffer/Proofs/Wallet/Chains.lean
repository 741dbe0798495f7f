import Coffer.Proofs.Payload.Upkeep
import Coffer.Proofs.Synchronizer.Coherence
import Coffer.Proofs.Wallet.Reached
/-!
# Default chains over a change

The default chain of an account and its labels are what they were, or nothing was known of the chain
before: the account is a new one, or it was just given segwit keys. Only a change that is made to
reserve an index changes labels.
-/

namespace Coffer

variable {services : Services} {keys : KeySource} {payload next : Payload}
  {held left : Option String} {transition : Transition} {change : Secret → Secret} {i : Nat}
  {account : Account}

/-! ## Labels -/

theorem Payload.labels_of_addSegwit {fields : Option FieldCipher} {seed : Bytes} {old : Account}
    (upgraded : addSegwit services fields seed i old = .ok account) :
    account.addressLabels = old.addressLabels ∧ account.archived = old.archived := by
  rcases addSegwit_eq_ok upgraded with ⟨_, rfl⟩ | ⟨_, _, _, _, _, rfl⟩ <;> exact ⟨rfl, rfl⟩

/-- An edit that is not made to reserve an index leaves the labels of every account alone, and new
accounts have none. -/
theorem Edit.labels (edit : Edit services payload held transition next) (sound : payload.Sound)
    (keepsLabels : transition.labels = false) (isAccount : next.accounts[i]? = some account) :
    (∃ old, payload.accounts[i]? = some old ∧ account.addressLabels = old.addressLabels) ∨
      (payload.accounts[i]? = none ∧ account.addressLabels = .empty) := by
  cases edit with
  | @account body index old new isBody isOld _ _ _ _ relabelled =>
    rw [Payload.accounts_of_body rfl] at isAccount
    rw [Payload.accounts_of_body isBody]
    by_cases own : index.toNat = i
    · subst own
      rw [List.getElem?_set_self (List.getElem?_eq_some_iff.mp isOld).1] at isAccount
      cases isAccount
      rcases relabelled with same | labels
      · exact .inl ⟨old, isOld, same⟩
      · exact nomatch keepsLabels.symm.trans labels
    · rw [List.getElem?_set_ne own] at isAccount
      exact .inl ⟨account, isAccount, rfl⟩
  | body isBody =>
    rw [Payload.accounts_of_body isBody]
    exact .inl ⟨account, isAccount, rfl⟩
  | @added body _ _ fresh isBody _ _ _ _ _ unlabelled =>
    rw [Payload.accounts_of_body rfl, List.getElem?_append] at isAccount
    rw [Payload.accounts_of_body isBody]
    split at isAccount
    · exact .inl ⟨account, isAccount, rfl⟩
    · rename_i beyond
      have isFresh := List.mem_singleton.mp (List.mem_of_getElem? isAccount)
      exact .inr ⟨List.getElem?_eq_none (Nat.le_of_not_lt beyond), isFresh ▸ unlabelled⟩
  | watched => exact .inl ⟨account, isAccount, rfl⟩
  | entry => exact .inl ⟨account, isAccount, rfl⟩
  | imported => exact .inl ⟨account, isAccount, rfl⟩
  | notes => exact .inl ⟨account, isAccount, rfl⟩
  | rooted _ needed made =>
    obtain ⟨_, derivation, _, _, _, accounts⟩ := Body.ofEntropy_eq_ok made
    rw [Payload.accounts_of_body rfl, accounts] at isAccount
    have isFirst := List.mem_singleton.mp (List.mem_of_getElem? isAccount)
    refine .inr ⟨?_, isFirst ▸ rfl⟩
    simp [Payload.accounts, Payload.body?, sound.noBodies needed]
  | segwit _ upgraded =>
    obtain ⟨_, _, old, _, _, isOld, upgradedOne⟩ :=
      Payload.addSegwit_of_upgradeBodies upgraded isAccount
    exact .inl ⟨old, isOld, (Payload.labels_of_addSegwit upgradedOne).1⟩

theorem Effect.labels (effect : Effect services payload held transition next left change)
    (sound : payload.Sound) (keepsLabels : transition.labels = false)
    (isAccount : next.accounts[i]? = some account) :
    (∃ old, payload.accounts[i]? = some old ∧ account.addressLabels = old.addressLabels) ∨
      (payload.accounts[i]? = none ∧ account.addressLabels = .empty) := by
  have recast {change : Secret → Secret} {flag : Bool} {hash : Option String}
      (isAccount : (payload.recast change flag hash).accounts[i]? = some account) :
      ∃ old, payload.accounts[i]? = some old ∧ account.addressLabels = old.addressLabels := by
    rw [Payload.accounts_recast, List.getElem?_map, Option.map_eq_some_iff] at isAccount
    obtain ⟨old, isOld, rfl⟩ := isAccount
    exact ⟨old, isOld, rfl⟩
  cases effect with
  | edited edit => exact edit.labels sound keepsLabels isAccount
  | locked => exact .inl (recast isAccount)
  | unlocked => exact .inl (recast isAccount)

/-! ## Schemes -/

/-- Only a change that gives accounts segwit keys gives wallets another default scheme. -/
theorem Effect.defaultFor (effect : Effect services payload held transition next left change)
    (keepsScheme : transition.addsSegwit = false) :
    Scheme.defaultFor next.version = Scheme.defaultFor payload.version := by
  cases effect with
  | edited edit =>
    cases edit with
    | rooted _ needed =>
      cases isVersion : payload.version <;>
        simp_all [Payload.needsAccounts, Version.number, Scheme.defaultFor]
    | segwit _ _ isChange => cases keepsScheme.symm.trans isChange
    | _ => rfl
  | locked => rfl
  | unlocked => rfl

theorem versions_of_addsSegwit (applied : transition.apply services payload = .ok next)
    (isChange : transition.addsSegwit = true) : payload.version = .v3 ∧ next.version = .v4 := by
  cases transition <;> cases isChange
  simp only [Transition.apply, Payload.upgradeToSegwit] at applied
  split at applied
  · cases applied
  · rename_i needed
    obtain ⟨_, _, applied⟩ := bind_eq_ok.mp applied
    obtain ⟨_, _, applied⟩ := bind_eq_ok.mp applied
    cases applied
    exact ⟨by simpa [Payload.needsSegwit] using needed, rfl⟩

/-! ## Default chains -/

/-- No account had a chain of the scheme before that an upgrade gives accounts for a default. -/
theorem Payload.noChain_of_addsSegwit {holds after : UInt32 → Derivation → Prop}
    (numbered : payload.Numbered holds) (nextNumbered : next.Numbered after)
    (applied : transition.apply services payload = .ok next)
    (isChange : transition.addsSegwit = true) (isAccount : next.accounts[i]? = some account)
    (xpub : String) : ¬ payload.HasChain xpub account.defaultScheme := by
  obtain ⟨wasThird, isFourth⟩ := versions_of_addsSegwit applied isChange
  obtain ⟨_, _, carries⟩ := nextNumbered i account isAccount
  rintro ⟨other, isIn, derivation, isOwn, _, isSegwit⟩
  obtain ⟨j, isOther⟩ := List.getElem?_of_mem isIn
  obtain ⟨_, _, carried⟩ := numbered j other isOther
  have isLegacy := carried.schemes ▸ List.mem_map_of_mem isOwn
  rw [isSegwit, carries.defaultScheme, isFourth, wasThird] at isLegacy
  exact absurd isLegacy (by decide)

theorem Payload.account_of_upgradeToSegwit {second : Option String}
    (upgraded : payload.upgradeToSegwit services second = .ok next)
    (isAccount : next.accounts[i]? = some account) :
    ∃ old, payload.accounts[i]? = some old ∧ account.addressLabels = old.addressLabels ∧
      account.archived = old.archived := by
  unfold upgradeToSegwit at upgraded
  split at upgraded
  · cases upgraded
  · obtain ⟨_, _, upgraded⟩ := bind_eq_ok.mp upgraded
    obtain ⟨bodies, upgradedAll, upgraded⟩ := bind_eq_ok.mp upgraded
    cases upgraded
    obtain ⟨_, _, old, _, _, isOld, upgradedOne⟩ := addSegwit_of_upgradeBodies upgradedAll isAccount
    exact ⟨old, isOld, labels_of_addSegwit upgradedOne⟩

/-- How an account of the next payload came by its default chain. -/
inductive Account.Inherits (payload : Payload) (switches : Prop) (account : Account)
    (xpub : String) : Prop
  | kept {old : Account} (isOld : old ∈ payload.accounts)
    (defaultScheme : old.defaultScheme = account.defaultScheme)
      (hasXpub : old.defaultXpub? = some xpub) (labels : account.addressLabels = old.addressLabels)
  | added (isNew : ¬ payload.HasChain xpub account.defaultScheme)
    (unlabelled : account.addressLabels = .empty)
  | switched (isNew : ¬ payload.HasChain xpub account.defaultScheme) (switches : switches)

variable {xpub : String}

/-- A change that is not made to reserve an index keeps the default chain of an account, unless it
adds or switches it. -/
theorem Account.inherits_of_apply (tellsApart : services.keys.TellsApart)
    (valid : payload.validate = .ok ()) (numbered : payload.Numbered services.keys.Makes)
    (applied : transition.apply services payload = .ok next)
    (keepsLabels : transition.labels = false) (isAccount : next.accounts[i]? = some account)
    (hasXpub : account.defaultXpub? = some xpub) :
    account.Inherits payload (transition.addsSegwit = true) xpub := by
  obtain ⟨held, change, _, effect⟩ := exists_effect applied
  have nextNumbered := Payload.numbered_of_effect effect numbered
  have extended := effect.extends (Payload.sound_of_valid valid)
  obtain ⟨_, _, carries⟩ := nextNumbered i account isAccount
  rcases effect.labels (Payload.sound_of_valid valid) keepsLabels isAccount with
    ⟨old, isOld, labels⟩ | ⟨isNew, unlabelled⟩
  · obtain ⟨_, _, wasCarried⟩ := numbered i old isOld
    cases isChange : transition.addsSegwit with
    | true =>
      exact .switched (Payload.noChain_of_addsSegwit numbered nextNumbered applied isChange
      isAccount xpub) rfl
    | false =>
      have sameScheme : old.defaultScheme = account.defaultScheme := by
        rw [wasCarried.defaultScheme, carries.defaultScheme, effect.defaultFor isChange]
      obtain ⟨later, isLater, extendedOne⟩ := extended.accounts i old isOld
      cases isAccount.symm.trans isLater
      obtain ⟨other, isOther⟩ := wasCarried.defaultXpub?
      have same := extendedOne.xpub? isOther
      rw [sameScheme] at same
      cases hasXpub.symm.trans same
      exact .kept (List.mem_of_getElem? isOld) sameScheme isOther labels
  · -- If the chain were one of an account before, that account would be the same.
    refine .added ?_ unlabelled
    rintro ⟨other, isIn, derivation, isOwn, isXpub, isScheme⟩
    obtain ⟨j, isOther⟩ := List.getElem?_of_mem isIn
    obtain ⟨later, isLater, extendedOne⟩ := extended.accounts j other isOther
    obtain ⟨more, derivations⟩ := extendedOne.derivations
    have isKept : derivation.recast change ∈ later.derivations := by
      rw [derivations]
      exact List.mem_append_left _ (List.mem_map_of_mem isOwn)
    obtain ⟨own, found, rfl⟩ := Option.map_eq_some_iff.mp hasXpub
    have ownScheme := List.find?_some found
    have same := Payload.position_of_chain tellsApart nextNumbered isLater isAccount isKept
      (List.mem_of_find?_eq_some found)
      isXpub.symm ((of_decide_eq_true ownScheme).trans isScheme.symm)
    rw [← same, isNew] at isOther
    cases isOther

theorem Account.Inherits.imp {switches others : Prop}
    (inherits : account.Inherits payload switches xpub)
    (weaker : switches → others) : account.Inherits payload others xpub := by
  cases inherits with
  | kept isOld defaultScheme hadXpub labels => exact .kept isOld defaultScheme hadXpub labels
  | added isNew unlabelled => exact .added isNew unlabelled
  | switched isNew switches => exact .switched isNew (weaker switches)

theorem Account.inherits_self {switches : Prop} (isAccount : payload.accounts[i]? = some account)
    (hasXpub : account.defaultXpub? = some xpub) : account.Inherits payload switches xpub :=
  .kept (List.mem_of_getElem? isAccount) rfl hasXpub rfl

/-! ## Next indexes -/

/-- Taking over labels gives the default chain of an account its labels and leaves its counter. -/
theorem Allocator.syncLabels_default (allocator : Allocator) (tellsApart : keys.TellsApart)
    (numbered : payload.Numbered keys.Makes) (isIn : account ∈ payload.accounts)
    (hasXpub : account.defaultXpub? = some xpub) :
    ((allocator.syncLabels payload).state xpub account.defaultScheme).reserved =
        account.addressLabels ∧
      ((allocator.syncLabels payload).state xpub account.defaultScheme).nextReceive =
        (allocator.state xpub account.defaultScheme).nextReceive :=
  ⟨allocator.reserves_syncLabels (Payload.apart_of_numbered tellsApart numbered) account isIn _ _ _
    (Account.claim?_default hasXpub), nextReceive_foldl_syncAccount _ _⟩

/-- Nothing is known of the chains that an upgrade to segwit gives accounts for a default. -/
theorem Wallet.Kept.fresh_of_addsSegwit {allocator : Allocator}
    {holds : UInt32 → Derivation → Prop}
    (kept : Kept keys allocator payload) (numbered : next.Numbered holds)
    (applied : transition.apply services payload = .ok next)
    (isChange : transition.addsSegwit = true) (isAccount : next.accounts[i]? = some account)
    (xpub : String) : allocator.state xpub account.defaultScheme = .fresh :=
  kept.knowsOnly _ _
    (Payload.noChain_of_addsSegwit kept.numbered numbered applied isChange isAccount xpub)

/-- The next index of the default chain of an account is the same before and after its labels are
taken over. Where the chain was switched, it was the first index of all before, and is a later one
if that has a label. -/
theorem Wallet.nextFree_syncLabels {allocator : Allocator} {switches : Prop}
    (kept : Kept keys allocator payload) (tellsApart : keys.TellsApart)
    (numbered : next.Numbered keys.Makes) (isAccount : next.accounts[i]? = some account)
    (hasXpub : account.defaultXpub? = some xpub)
    (inherits : account.Inherits payload switches xpub) :
    (allocator.syncLabels next).nextFree xpub account.defaultScheme =
        allocator.nextFree xpub account.defaultScheme ∨
      switches ∧ allocator.nextFree xpub account.defaultScheme = .ok 0 ∧
        (account.addressLabels.find? 0).isSome = true := by
  obtain ⟨reserved, counter⟩ :=
    allocator.syncLabels_default tellsApart numbered (List.mem_of_getElem? isAccount) hasXpub
  cases inherits with
  | @kept old isOld sameScheme hadXpub labels =>
    have wasReserved := kept.reserves old isOld _ _ _ (Account.claim?_default hadXpub)
    rw [sameScheme] at wasReserved
    exact .inl (Allocator.nextFree_congr counter (reserved.trans (labels.trans wasReserved.symm)))
  | added isNew unlabelled =>
    have fresh := kept.knowsOnly _ _ isNew
    have wasReserved := congrArg IndexState.reserved fresh
    exact .inl (Allocator.nextFree_congr counter
      (reserved.trans (unlabelled.trans wasReserved.symm)))
  | switched isNew switches =>
    have fresh := kept.knowsOnly _ _ isNew
    have isFirst := Allocator.nextFree_of_fresh fresh
    cases isLabelled : account.addressLabels.find? 0 with
    | some label => exact .inr ⟨switches, isFirst, rfl⟩
    | none =>
      have atStart : ((allocator.syncLabels next).state xpub account.defaultScheme).nextReceive =
          0 := by
        rw [counter, fresh]
        rfl
      exact .inl ((Allocator.nextFree_of_free atStart (reserved ▸ isLabelled)).trans isFirst.symm)

/-! ## What a step keeps -/

/-- Accounts stay where they are with the extended keys that they have, and the version does not
fall. -/
structure Payload.Retains (before after : Payload) : Prop where
  version : before.version.number ≤ after.version.number
  xpubs : ∀ position account, before.account position = .ok account →
    ∃ later, after.account position = .ok later ∧
    ∀ scheme xpub, account.xpub? scheme = some xpub → later.xpub? scheme = some xpub

namespace Payload.Retains

theorem refl (payload : Payload) : payload.Retains payload where
  version := UInt8.le_refl _
  xpubs := fun _ account isAccount => ⟨account, isAccount, fun _ _ => id⟩

theorem trans {middle : Payload} (first : payload.Retains middle) (second : middle.Retains next) :
    payload.Retains next where
  version := UInt8.le_trans first.version second.version
  xpubs := by
    intro position account isAccount
    obtain ⟨between, isBetween, kept⟩ := first.xpubs position account isAccount
    obtain ⟨later, isLater, stillKept⟩ := second.xpubs position between isBetween
    exact ⟨later, isLater, fun scheme xpub hasXpub =>
      stillKept scheme xpub (kept scheme xpub hasXpub)⟩

theorem derivation {position : UInt64} {scheme : Scheme} (retains : payload.Retains next)
    (isAccount : payload.account position = .ok account)
    (hasXpub : account.xpub? scheme = some xpub) :
    ∃ later derivation, next.account position = .ok later ∧ later.xpub? scheme = some xpub ∧
      derivation ∈ later.derivations ∧ derivation.xpub = xpub ∧ derivation.scheme = scheme := by
  obtain ⟨later, isLater, kept⟩ := retains.xpubs position account isAccount
  have stillXpub := kept scheme xpub hasXpub
  obtain ⟨derivation, found, sameXpub⟩ := Option.map_eq_some_iff.mp stillXpub
  have sameScheme := List.find?_some found
  exact ⟨later, derivation, isLater, stillXpub, List.mem_of_find?_eq_some found, sameXpub,
    of_decide_eq_true sameScheme⟩

end Payload.Retains

theorem Payload.ChangesTo.retains (changed : payload.ChangesTo keys next)
    (valid : payload.validate = .ok ()) : payload.Retains next := by
  rcases changed with rfl | ⟨services, transition, _, applied⟩
  · exact .refl _
  · obtain ⟨_, _, _, effect⟩ := exists_effect applied
    constructor
    · exact (Payload.checkSucceeds_eq_ok effect.checkSucceeds).1
    · intro position account isAccount
      obtain ⟨later, isLater, extended⟩ :=
        (effect.extends (sound_of_valid valid)).accounts _ _ (account_eq_ok.mp isAccount)
      exact ⟨later, account_eq_ok.mpr isLater, fun _ _ => extended.xpub?⟩

theorem Wallet.Step.retains {wallet later : Wallet} (step : Step keys wallet later)
    (keeps : wallet.Keeps keys) (isPayload : wallet.payload = .ok payload) :
    ∃ next, later.payload = .ok next ∧ payload.Retains next := by
  cases step with
  | rested same => exact ⟨payload, (payload_congr same).trans isPayload, .refl payload⟩
  | refreshed wasCommitted same =>
    exact ⟨payload, (payload_congr (same.trans wasCommitted.symm)).trans isPayload, .refl payload⟩
  | saved wasCommitted isNew changed =>
    cases (payload_of_committed wasCommitted).symm.trans isPayload
    exact ⟨_, payload_of_committed isNew, changed.retains (keeps _ wasCommitted).valid⟩

/-! ## The default chain of an account -/

namespace Wallet

variable {wallet : Wallet} {position : UInt64} {scheme : Scheme} {index : UInt32}

theorem accountChain_of_account {committed : Committed}
    (isCommitted : wallet.synchronizer.committed = some committed)
    (numbered : committed.payload.Numbered keys.Makes) {position : Nat} {account : Account}
    (isAccount : committed.payload.accounts[position]? = some account) :
    ∃ xpub, account.defaultXpub? = some xpub ∧
      account.defaultScheme = Scheme.defaultFor committed.payload.version ∧
      wallet.accountChain (UInt64.ofNat position) = .ok (account.defaultScheme, xpub) := by
  obtain ⟨_, isNumber, carries⟩ := numbered position account isAccount
  obtain ⟨xpub, hasXpub⟩ := carries.defaultXpub?
  refine ⟨xpub, hasXpub, carries.defaultScheme, ?_⟩
  refine accountChain_eq_ok.mpr ⟨_, account, payload_of_committed isCommitted, ?_, rfl, hasXpub⟩
  rw [Payload.account_eq_ok, UInt64.toNat_ofNat_of_lt']
  · exact isAccount
  · exact Nat.lt_trans (Payload.accountNumber?_eq_some.mp isNumber).1 (by decide)

theorem Keeps.reserved_of_accountChain (keeps : wallet.Keeps keys)
    (isChain : wallet.accountChain position = .ok (scheme, xpub)) :
    ∃ payload account, wallet.payload = .ok payload ∧ payload.account position = .ok account ∧
      (wallet.synchronizer.allocator.state xpub scheme).reserved = account.addressLabels := by
  obtain ⟨payload, account, isPayload, isAccount, rfl, hasXpub⟩ := accountChain_eq_ok.mp isChain
  obtain ⟨committed, isCommitted, rfl⟩ := payload_eq_ok isPayload
  have isIn := List.mem_of_getElem? (Payload.account_eq_ok.mp isAccount)
  exact ⟨_, account, isPayload, isAccount,
    (keeps committed isCommitted).reserves account isIn _ _ _ (Account.claim?_default hasXpub)⟩

theorem nextReceivePosition_of_chain (isChain : wallet.accountChain position = .ok (scheme, xpub)) :
    wallet.nextReceivePosition position = wallet.synchronizer.allocator.nextFree xpub scheme := by
  rw [nextReceivePosition, isChain, bind_ok]

theorem nextReceivePosition_eq_ok (isNext : wallet.nextReceivePosition position = .ok index) :
    ∃ scheme xpub, wallet.accountChain position = .ok (scheme, xpub) ∧
      wallet.synchronizer.allocator.nextFree xpub scheme = .ok index := by
  obtain ⟨⟨scheme, xpub⟩, isChain, isNext⟩ := bind_eq_ok.mp isNext
  exact ⟨scheme, xpub, isChain, isNext⟩

theorem Keeps.defaultScheme (keeps : wallet.Keeps keys) (isPayload : wallet.payload = .ok payload)
    (isIn : account ∈ payload.accounts) :
    account.defaultScheme = Scheme.defaultFor payload.version := by
  obtain ⟨committed, isCommitted, rfl⟩ := payload_eq_ok isPayload
  obtain ⟨i, isAccount⟩ := List.getElem?_of_mem isIn
  obtain ⟨_, _, carries⟩ := (keeps committed isCommitted).numbered i account isAccount
  exact carries.defaultScheme

/-- The default chain of an account stays what it is over a step that leaves the wallet its default
scheme. -/
theorem Step.accountChain {later : Wallet} (step : Step keys wallet later)
    (tellsApart : keys.TellsApart) (keeps : wallet.Keeps keys)
    (isChain : wallet.accountChain position = .ok (scheme, xpub))
    (isPayload : later.payload = .ok next) (sameScheme : Scheme.defaultFor next.version = scheme) :
    later.accountChain position = .ok (scheme, xpub) := by
  obtain ⟨payload, account, wasPayload, isAccount, rfl, hasXpub⟩ := accountChain_eq_ok.mp isChain
  obtain ⟨_, isOther, retains⟩ := step.retains keeps wasPayload
  cases isPayload.symm.trans isOther
  obtain ⟨last, isLast, kept⟩ := retains.xpubs position account isAccount
  have isIn := List.mem_of_getElem? (Payload.account_eq_ok.mp isLast)
  have stillDefault := ((step.keeps tellsApart keeps).defaultScheme isPayload isIn).trans sameScheme
  refine accountChain_eq_ok.mpr ⟨next, last, isPayload, isLast, stillDefault, ?_⟩
  rw [Account.defaultXpub?, stillDefault]
  exact kept _ _ hasXpub

theorem Kept.unreserved {allocator : Allocator} (kept : Kept keys allocator payload)
    (unlabelled : ∀ account ∈ payload.accounts, account.addressLabels.find? index = none)
    (xpub : String) (scheme : Scheme) :
    (allocator.state xpub scheme).reserved.find? index = none := by
  by_cases hasChain : payload.HasChain xpub scheme
  · obtain ⟨account, isIn, derivation, isOwn, rfl, rfl⟩ := hasChain
    obtain ⟨i, isAccount⟩ := List.getElem?_of_mem isIn
    obtain ⟨_, _, carries⟩ := kept.numbered i account isAccount
    by_cases isDefault : derivation.scheme = account.defaultScheme
    · have hasXpub := carries.xpub?_of_mem isOwn
      rw [isDefault] at hasXpub ⊢
      rw [kept.reserves account isIn _ _ _ (Account.claim?_default hasXpub)]
      exact unlabelled account isIn
    · rw [kept.reserves account isIn _ _ _ (Account.claim?_other isOwn isDefault)]
      rfl
  · rw [kept.knowsOnly xpub scheme hasChain]
    rfl

/-! ## The next address -/

def reserving (wallet : Wallet) (workplace : Workplace) (store : Store) (position : UInt64)
    (index : UInt32) (label : String) : Reply Committed :=
  wallet.mutate workplace store false fun payload => payload.labelAddress position index label

/-- With an index to hand out, a call for the next address leaves what the save of the label leaves.
The address is derived after that, and only then. -/
theorem nextReceiveAndReserve_of_next (workplace : Workplace) (store : Store) (label : String)
    (isNext : wallet.nextOn position .receive = .ok (scheme, xpub, index)) :
    (wallet.nextReceiveAndReserve workplace store position label).wallet =
        (wallet.reserving workplace store position index label).wallet ∧
      (wallet.nextReceiveAndReserve workplace store position label).store =
        (wallet.reserving workplace store position index label).store ∧
      (wallet.nextReceiveAndReserve workplace store position label).result =
        (wallet.reserving workplace store position index label).result >>= fun _ =>
          liftError .derivation (workplace.services.keys.addressAt xpub scheme .receive index) := by
  rw [nextReceiveAndReserve, isNext]
  exact ⟨rfl, rfl, rfl⟩

end Wallet

end Coffer
