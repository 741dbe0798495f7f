import Coffer.Proofs.Allocator.Counters
import Coffer.Proofs.KeySource.Numbers
import Coffer.Proofs.Wallet.FailedReservations
import Coffer.Proofs.Wallet.Recovery
/-!
# Addresses that stay the wallet's own

An address is found to be the wallet's own if it is on a chain of an account, before the next index
of the chain and the lookahead after it. An address that was handed out has a label, and a label
lasts, so that the next index of the chain stays past it as long as labels are reserved on that
chain. An upgrade to segwit reserves them on another one. From then on it is the counter alone that
the older addresses are searched up to.
-/

namespace Coffer

/-! ## Addresses at normal indexes -/

/-- The source has addresses at indexes below 2^31 only; the others are for hardened keys. -/
def KeySource.IsNormal (keys : KeySource) : Prop :=
  ∀ ⦃xpub : String⦄ ⦃scheme : Scheme⦄ ⦃chain : Chain⦄ ⦃index : UInt32⦄ ⦃address : String⦄,
    keys.addressAt xpub scheme chain index = .ok address → index.toNat < 0x80000000

theorem Hierarchical.keySource_isNormal (network : Network) : (keySource network).IsNormal := by
  intro xpub scheme chain index address derived
  exact UInt32.lt_iff_toNat_lt.mp (addressAt_eq_ok derived)

theorem Toy.keySource_isNormal : keySource.IsNormal := by
  intro xpub scheme chain index address derived
  simp only [keySource] at derived
  split at derived
  · cases derived
  · obtain ⟨_, checked, _⟩ := bind_eq_ok.mp derived
    unfold checkIndex at checked
    split at checked
    · rename_i small
      exact UInt32.lt_iff_toNat_lt.mp small
    · cases checked

/-- When the last index of all is reserved and the one before was seen in use, no index is left. -/
theorem IndexState.firstFree?_of_last {state : IndexState} {label : String}
    (isLast : state.reserved.find? 0xffffffff = some label) :
    (state.advance .receive 0xfffffffe).firstFree? = none := by
  refine firstFree?_eq_none.mpr fun index isReached => ?_
  have isReached := UInt32.le_iff_toNat_le.mp isReached
  rw [advance, Allocator.toNat_max] at isReached
  have atEnd : (satAdd32 0xfffffffe 1).toNat ≤ index.toNat :=
    Nat.le_trans (Nat.le_max_right _ _) isReached
  have isEnd : index = 0xffffffff :=
    UInt32.toNat_inj.mp (Nat.le_antisymm (Nat.le_of_lt_succ index.toNat_lt) atEnd)
  rw [isEnd]
  exact Option.isSome_of_mem isLast

variable {keys : KeySource} {payload next : Payload}

namespace Wallet

variable {wallet later : Wallet} {workplace : Workplace} {store : Store} {position : UInt64}
  {label : String}

theorem Leads.retains (leads : Leads keys wallet later) (tellsApart : keys.TellsApart)
    (keeps : wallet.Keeps keys) (isPayload : wallet.payload = .ok payload) :
    ∃ next, later.payload = .ok next ∧ payload.Retains next := by
  induction leads with
  | refl => exact ⟨payload, isPayload, .refl payload⟩
  | @perform later workplace store draw command leads sameKeys goesOn ih =>
    obtain ⟨between, isBetween, retains⟩ := ih
    have step := step_perform later store draw sameKeys goesOn
    obtain ⟨next, isNext, further⟩ := step.retains (leads.continues tellsApart keeps).2 isBetween
    exact ⟨next, isNext, retains.trans further⟩

end Wallet

namespace Wallet

variable {wallet later : Wallet} {workplace home : Workplace} {store : Store} {position : UInt64}
  {address label : String} {derivation : Derivation}

/-! ## What is searched -/

theorem payload?_eq (wallet : Wallet) : wallet.payload? = wallet.payload.toOption := by
  rw [payload?, payload, Synchronizer.current]
  cases wallet.synchronizer.committed <;> rfl

theorem mem_chains {account : Account} {chain : Chain} :
    (account, derivation, chain) ∈ chains payload ↔
    account ∈ payload.accounts ∧ derivation ∈ account.derivations := by
  have everyChain : chain ∈ [Chain.receive, Chain.change] := by cases chain <;> decide
  simp only [chains, List.mem_flatMap, List.mem_map, Prod.mk.injEq]
  constructor
  · rintro ⟨_, isIn, _, isOwn, _, _, rfl, rfl, _⟩
    exact ⟨isIn, isOwn⟩
  · rintro ⟨isIn, isOwn⟩
    exact ⟨_, isIn, _, isOwn, _, everyChain, rfl, rfl, rfl⟩

/-- An address is found among the first ones of a chain when it is the address of one of their
indexes. -/
theorem derivesFrom_iff {chain : Chain} {start count : Nat} :
    derivesFrom keys derivation chain address start count = true ↔
      ∃ i, i < count ∧ keys.addressAt derivation.xpub derivation.scheme chain
        (UInt32.ofNat (start + i)) = .ok address := by
  induction count generalizing start with
  | zero =>
    constructor
    · intro isFound
      cases isFound
    · rintro ⟨_, within, _⟩
      cases within
  | succ count ih =>
    have step : derivesFrom keys derivation chain address start (count + 1) = true ↔
        keys.addressAt derivation.xpub derivation.scheme chain (UInt32.ofNat start) = .ok address ∨
          derivesFrom keys derivation chain address (start + 1) count = true := by
      rw [derivesFrom]
      cases keys.addressAt derivation.xpub derivation.scheme chain (UInt32.ofNat start) <;> simp
    rw [step, ih]
    constructor
    · rintro (isFirst | ⟨i, within, derived⟩)
      · exact ⟨0, Nat.succ_pos _, isFirst⟩
      · exact ⟨i + 1, Nat.succ_lt_succ within, by rwa [← Nat.add_assoc, Nat.add_right_comm]⟩
    · rintro ⟨i, within, derived⟩
      cases i with
      | zero => exact .inl derived
      | succ i => exact .inr ⟨i, Nat.lt_of_succ_lt_succ within, by rwa [Nat.add_right_comm]⟩

theorem searchWidth_eq_ok {chain : Chain} {width : UInt32} :
    wallet.searchWidth home derivation chain = .ok width ↔
    ∃ next, wallet.synchronizer.allocator.nextIndex derivation.xpub derivation.scheme
      chain = .ok next ∧ satAdd32 next home.config.lookahead = width := by
  simp only [searchWidth, bind_eq_ok, pure_eq_ok, Except.ok.injEq]

/-- An address is not the wallet's own when no index of a chain of an account leads to it, before
the next index of the chain and the lookahead, and the search of each chain comes to an end. -/
theorem ownsAddress_eq_false : wallet.ownsAddress home address = .ok false ↔
    ∀ payload, wallet.payload = .ok payload →
      ∀ account ∈ payload.accounts, ∀ derivation ∈ account.derivations, ∀ chain,
      ∃ width, wallet.searchWidth home derivation chain = .ok width ∧ ∀ index < width.toNat,
        home.services.keys.addressAt derivation.xpub derivation.scheme chain (UInt32.ofNat index) ≠
          .ok address := by
  have isUnderived (derivation : Derivation) (chain : Chain) :
      wallet.derives home address derivation chain = .ok false ↔
        ∃ width, wallet.searchWidth home derivation chain = .ok width ∧ ∀ index < width.toNat,
          home.services.keys.addressAt derivation.xpub derivation.scheme chain
          (UInt32.ofNat index) ≠ .ok address := by
    simp only [derives, bind_eq_ok, pure_eq_ok, Except.ok.injEq, ← Bool.not_eq_true,
      derivesFrom_iff, Nat.zero_add, not_exists, not_and, ne_eq]
  rw [ownsAddress, xpubOf?, payload?_eq]
  cases wallet.payload with
  | error cause => simp [Except.toOption]
  | ok payload =>
    have noOwner : wallet.owner? home payload address = .ok none ↔
        ∀ account ∈ payload.accounts, ∀ derivation ∈ account.derivations, ∀ chain,
          wallet.derives home address derivation chain = .ok false := by
      simp only [owner?, bind_eq_ok, pure_eq_ok, Except.ok.injEq, Option.map_eq_none_iff,
        exists_eq_right, findM?_eq_none, mem_chains, and_imp, Prod.forall]
      exact ⟨fun each account isIn derivation isOwn chain =>
        each account derivation chain isIn isOwn, fun each account derivation chain isIn isOwn =>
          each account isIn derivation isOwn chain⟩
    simp only [← isUnderived]
    simp [Except.toOption, bind_eq_ok, ← noOwner]

/-- An address that was not found is past the lookahead of each chain that it is on. -/
theorem past_of_ownsAddress {account : Account} {chain : Chain} {index : UInt32}
    (missed : wallet.ownsAddress home address = .ok false)
    (isPayload : wallet.payload = .ok payload) (isIn : account ∈ payload.accounts)
    (isOwn : derivation ∈ account.derivations) (small : index.toNat < 0x80000000)
    (derived : home.services.keys.addressAt derivation.xpub derivation.scheme chain index =
      .ok address) :
    ∃ next, wallet.synchronizer.allocator.nextIndex derivation.xpub derivation.scheme chain =
      .ok next ∧ next.toNat + home.config.lookahead.toNat ≤ index.toNat := by
  obtain ⟨width, isWidth, misses⟩ :=
    ownsAddress_eq_false.mp missed payload isPayload account isIn derivation isOwn chain
  obtain ⟨next, isNext, rfl⟩ := searchWidth_eq_ok.mp isWidth
  refine ⟨next, isNext, ?_⟩
  by_contra within
  refine misses index.toNat ?_ ?_
  · rw [toNat_satAdd32]
    omega
  · rw [UInt32.ofNat_toNat]
    exact derived

/-! ## Searches without end -/

theorem ownsAddress_of_first {account : Account} {cause : WalletError} {others : List Derivation}
    (isPayload : wallet.payload = .ok payload) (isAccount : payload.account 0 = .ok account)
    (derivations : account.derivations = derivation :: others)
    (failed : wallet.synchronizer.allocator.nextFree derivation.xpub derivation.scheme =
      .error cause) :
    wallet.ownsAddress home address = .error cause := by
  obtain ⟨later, accounts⟩ : ∃ later, payload.accounts = account :: later :=
    ⟨_, List.eq_cons_of_mem_head?
      (List.head?_eq_getElem?.trans (Payload.account_eq_ok.mp isAccount))⟩
  obtain ⟨_, first⟩ : ∃ rest, chains payload = (account, derivation, .receive) :: rest := by
    rw [chains, accounts, List.flatMap_cons, derivations]
    exact ⟨_, rfl⟩
  simp only [ownsAddress, xpubOf?, payload?_eq, isPayload, Except.toOption, owner?, first,
    List.findM?, derives, searchWidth, Allocator.nextIndex, failed, bind_error]

/-- A wallet of the third version has legacy chains only, so that the search for the owner of an
address begins with the receive chain of the first account. -/
theorem ownsAddress_of_third {holds : UInt32 → Derivation → Prop} {scheme : Scheme} {xpub : String}
    {cause : WalletError} (numbered : payload.Numbered holds)
    (isPayload : wallet.payload = .ok payload) (isThird : payload.version = .v3)
    (isChain : wallet.accountChain 0 = .ok (scheme, xpub))
    (failed : wallet.synchronizer.allocator.nextFree xpub scheme = .error cause) :
    wallet.ownsAddress home address = .error cause := by
  obtain ⟨_, account, isOther, isAccount, rfl, hasXpub⟩ := accountChain_eq_ok.mp isChain
  cases isPayload.symm.trans isOther
  obtain ⟨_, _, carries⟩ := numbered _ account (Payload.account_eq_ok.mp isAccount)
  have schemes := carries.schemes
  rw [isThird] at schemes
  obtain ⟨derivation, derivations, isLegacy⟩ := List.map_eq_singleton_iff.mp schemes
  have isDefault : derivation.scheme = account.defaultScheme := by
    rw [carries.defaultScheme, isThird, isLegacy]
    rfl
  have isXpub := carries.xpub?_of_mem (derivations ▸ List.mem_singleton_self derivation)
  rw [Account.defaultXpub?, ← isDefault, isXpub] at hasXpub
  rw [← isDefault, ← Option.some.inj hasXpub] at failed
  exact ownsAddress_of_first isPayload isAccount derivations failed

/-- An account has labels for all indexes of its default chain from the counter on, so that there is
none to hand out. -/
def IsFull (wallet : Wallet) : Prop :=
  ∃ payload, wallet.payload = .ok payload ∧
    ∃ account ∈ payload.accounts, ∃ xpub, account.defaultXpub? = some xpub ∧
    ∀ index, (wallet.synchronizer.allocator.state xpub account.defaultScheme).nextReceive ≤ index →
      (account.addressLabels.find? index).isSome = true

theorem not_isFull (isPayload : wallet.payload = .ok payload)
    (unlabelled : ∀ account ∈ payload.accounts, account.addressLabels.find? 0xffffffff = none) :
    ¬ wallet.IsFull := by
  rintro ⟨_, isOther, account, isIn, xpub, _, isFull⟩
  cases isPayload.symm.trans isOther
  have isLabelled :=
    isFull 0xffffffff (UInt32.le_iff_toNat_le.mpr (Nat.le_of_lt_succ (UInt32.toNat_lt _)))
  rw [unlabelled account isIn] at isLabelled
  cases isLabelled

theorem Keeps.nextFree_of_other {account : Account} (keeps : wallet.Keeps keys)
    (isPayload : wallet.payload = .ok payload)
    (isIn : account ∈ payload.accounts) (isOwn : derivation ∈ account.derivations)
    (isOther : derivation.scheme ≠ account.defaultScheme) :
    wallet.synchronizer.allocator.nextFree derivation.xpub derivation.scheme =
      .ok (wallet.synchronizer.allocator.state derivation.xpub derivation.scheme).nextReceive := by
  obtain ⟨committed, isCommitted, rfl⟩ := payload_eq_ok isPayload
  have reserved :=
    (keeps committed isCommitted).reserves account isIn _ _ _ (Account.claim?_other isOwn isOther)
  refine Allocator.nextFree_of_free rfl ?_
  rw [reserved]
  rfl

/-- Where the search for the next index of a chain of an account has no end, the account has labels
for all of them. -/
theorem Keeps.isFull {account : Account} {cause : WalletError} (keeps : wallet.Keeps keys)
    (isPayload : wallet.payload = .ok payload) (isIn : account ∈ payload.accounts)
    (isOwn : derivation ∈ account.derivations)
    (failed : wallet.synchronizer.allocator.nextFree derivation.xpub derivation.scheme =
      .error cause) :
    cause = .endless ∧ wallet.IsFull := by
  obtain ⟨isFull, rfl⟩ := Allocator.nextFree_eq_error.mp failed
  rw [IndexState.firstFree?_eq_none] at isFull
  by_cases isDefault : derivation.scheme = account.defaultScheme
  · obtain ⟨committed, isCommitted, rfl⟩ := payload_eq_ok isPayload
    have kept := keeps committed isCommitted
    obtain ⟨i, isAccount⟩ := List.getElem?_of_mem isIn
    obtain ⟨_, _, carries⟩ := kept.numbered i account isAccount
    have hasXpub := carries.xpub?_of_mem isOwn
    rw [isDefault] at hasXpub isFull
    rw [kept.reserves account isIn _ _ _ (Account.claim?_default hasXpub)] at isFull
    exact ⟨rfl, committed.payload, isPayload, account, isIn, derivation.xpub, hasXpub, isFull⟩
  · cases failed.symm.trans (keeps.nextFree_of_other isPayload isIn isOwn isDefault)

/-- The search for the owner of an address ends, unless an account has labels for all indexes. -/
theorem Keeps.isFull_of_ownsAddress {cause : WalletError} (keeps : wallet.Keeps keys)
    (failed : wallet.ownsAddress home address = .error cause) : cause = .endless ∧
      wallet.IsFull := by
  rw [ownsAddress, xpubOf?, payload?_eq] at failed
  cases isPayload : wallet.payload with
  | error => simp [isPayload, Except.toOption] at failed
  | ok payload =>
    simp only [isPayload, Except.toOption, owner?, bind_eq_error, pure_eq_ok, reduceCtorEq,
      and_false, exists_false, or_false] at failed
    obtain ⟨⟨account, derivation, chain⟩, isChain, failed⟩ := exists_error_of_findM? failed
    obtain ⟨isIn, isOwn⟩ := mem_chains.mp isChain
    simp only [derives, searchWidth, bind_eq_error, pure_eq_ok, reduceCtorEq,
      and_false, exists_false, or_false] at failed
    cases chain with
    | receive => exact keeps.isFull isPayload isIn isOwn failed
    | change => cases failed

/-! ## Addresses that were handed out -/

/-- An index of a legacy chain is out of sight: the wallet has been upgraded to segwit, so that
reservations count for another chain, and the index is past the counter and the lookahead. -/
structure OutOfSight (wallet : Wallet) (home : Workplace) (xpub : String) (index : UInt32) :
    Prop where
  isUpgraded : ∃ payload, wallet.payload = .ok payload ∧ payload.version = .v4
  isPast : (wallet.synchronizer.allocator.state xpub .legacy).nextReceive.toNat +
    home.config.lookahead.toNat ≤ index.toNat

theorem upgraded_of_defaultFor {version later : Version} (newer : version.number ≤ later.number)
    (differs : Scheme.defaultFor later ≠ Scheme.defaultFor version) :
    Scheme.defaultFor version = .legacy ∧ version ≠ .v4 ∧ later = .v4 := by
  cases version <;> cases later <;> revert newer differs <;> decide

/-- An address that a call for the next address told is found to be the wallet's own in every later
state in which the search for its owner ends, unless the wallet has been upgraded to segwit since
and the index of the address is past the legacy counter and the lookahead. The search ends unless an
account has labels for all indexes from the counter on. -/
theorem Reached.told_address_stays_own {address : String} (reached : Reached keys wallet)
    (tellsApart : keys.TellsApart) (isNormal : keys.IsNormal)
    (sameKeys : workplace.services.keys = keys)
    (told : (wallet.nextReceiveAndReserve workplace store position label).result = .ok address) :
    ∃ index scheme xpub, wallet.nextReceivePosition position = .ok index ∧
      wallet.accountChain position = .ok (scheme, xpub) ∧
      keys.addressAt xpub scheme .receive index = .ok address ∧
      ∀ later home, Leads keys (wallet.nextReceiveAndReserve workplace store position
        label).wallet later → home.services.keys = keys →
          later.ownsAddress home address = .ok true ∨
            (later.ownsAddress home address = .error .endless ∧ later.IsFull) ∨
            (scheme = .legacy ∧ (∀ payload, wallet.payload = .ok payload → payload.version ≠ .v4) ∧
              later.OutOfSight home xpub index) := by
  obtain ⟨_, index, scheme, xpub, picks, isChain, derived⟩ := picks_of_nextReceiveAndReserve told
  rw [sameKeys] at derived
  have small := isNormal derived
  refine ⟨index, scheme, xpub, picks.isNext, isChain, derived, fun later home leads homeKeys => ?_⟩
  have keeps := reached.keeps tellsApart
  have step : Step keys wallet
      (wallet.nextReceiveAndReserve workplace store position label).wallet :=
    step_nextReceiveAndReserve sameKeys
  have laterKeeps := (leads.continues tellsApart (step.keeps tellsApart keeps)).2
  cases result : later.ownsAddress home address with
  | error cause =>
    obtain ⟨rfl, isFull⟩ := laterKeeps.isFull_of_ownsAddress result
    exact .inr (.inl ⟨rfl, isFull⟩)
  | ok owns =>
  cases owns with
  | true => exact .inl rfl
  | false =>
    refine .inr (.inr ?_)
    -- The chain of the address still belongs to the account, and was searched up to some index.
    obtain ⟨payload, account, isPayload, isAccount, rfl, hasXpub⟩ := accountChain_eq_ok.mp isChain
    obtain ⟨between, isBetween, retains⟩ := step.retains keeps isPayload
    obtain ⟨last, isLast, further⟩ :=
      leads.retains tellsApart (step.keeps tellsApart keeps) isBetween
    have retains := retains.trans further
    obtain ⟨lastAccount, derivation, isLastAccount, stillXpub, isOwn, rfl, isScheme⟩ :=
      retains.derivation isAccount hasXpub
    have isIn := List.mem_of_getElem? (Payload.account_eq_ok.mp isLastAccount)
    have wasIn := List.mem_of_getElem? (Payload.account_eq_ok.mp isAccount)
    have stillDerived : home.services.keys.addressAt derivation.xpub derivation.scheme .receive
        index = .ok address := by
      rw [homeKeys, isScheme]
      exact derived
    obtain ⟨next, isNext, isPast⟩ := past_of_ownsAddress result isLast isIn isOwn small stillDerived
    by_cases sameScheme : lastAccount.defaultScheme = account.defaultScheme
    · -- Reservations still count for the chain, so that the next index is past the picked one.
      have isLaterChain : later.accountChain position =
          .ok (account.defaultScheme, derivation.xpub) := by
        refine accountChain_eq_ok.mpr ⟨last, lastAccount, isLast, isLastAccount, sameScheme, ?_⟩
        rw [Account.defaultXpub?, sameScheme]
        exact stillXpub
      rw [isScheme] at isNext
      have isLater := picks.lt_of_leads tellsApart keeps sameKeys leads
        (isLaterChain.trans isChain.symm) ((nextReceivePosition_of_chain isLaterChain).trans isNext)
      have isLater := UInt32.lt_iff_toNat_lt.mp isLater
      omega
    · -- The wallet was upgraded, and nothing is reserved on the chain any more.
      have differs := sameScheme
      rw [keeps.defaultScheme isPayload wasIn, laterKeeps.defaultScheme isLast isIn] at differs
      obtain ⟨isLegacy, notFourth, isFourth⟩ := upgraded_of_defaultFor retains.version differs
      have isOther : derivation.scheme ≠ lastAccount.defaultScheme :=
        fun same => sameScheme (same.symm.trans isScheme)
      cases isNext.symm.trans (laterKeeps.nextFree_of_other isLast isIn isOwn isOther)
      rw [← keeps.defaultScheme isPayload wasIn] at isLegacy
      rw [isScheme, isLegacy] at isPast
      refine ⟨isLegacy, fun other isOtherPayload => ?_, ⟨last, isLast, isFourth⟩, isPast⟩
      cases isPayload.symm.trans isOtherPayload
      exact notFourth

end Wallet

/-! ## A new wallet -/

namespace Toy

open Wallet

theorem scheme_of_address {xpub other address : String} {scheme otherScheme : Scheme}
    {chain otherChain : Chain} {index otherIndex : UInt32}
    (derived : keySource.addressAt xpub scheme chain index = .ok address)
    (alsoDerived : keySource.addressAt other otherScheme otherChain otherIndex = .ok address) :
    scheme = otherScheme := by
  have starts {xpub : String} {scheme : Scheme} {chain : Chain} {index : UInt32}
      (derived : keySource.addressAt xpub scheme chain index = .ok address) :
      address.toList.take 6 = (toString scheme.name).toList := by
    simp only [keySource] at derived
    split at derived
    · cases derived
    · obtain ⟨_, _, derived⟩ := bind_eq_ok.mp derived
      cases derived
      simp only [String.toList_append, List.append_assoc]
      have long := length_schemeName scheme
      rw [List.take_append_of_le_length (Nat.le_of_eq long.symm),
        List.take_of_length_le (Nat.le_of_eq long)]
  have same := (starts derived).symm.trans (starts alsoDerived)
  cases scheme <;> cases otherScheme <;> first | rfl | exact absurd same (by decide)

theorem Upgrades.not_isFull {workplace : Workplace} {old new : Committed} {record : Record}
    {account : Account} {xpub : String}
    (upgrades : Upgrades workplace old new record account xpub) :
    ¬ (upgraded workplace).wallet.IsFull := by
  refine Wallet.not_isFull (payload_of_committed upgrades.left.isCommitted) fun own isIn => ?_
  rw [upgrades.accounts] at isIn
  rw [List.mem_singleton.mp isIn, upgrades.labels]
  decide

theorem Tells.count_upgraded {workplace : Workplace} {path address : String}
    {new : Committed} {body : Body} {account : Account} {seed : Bytes}
    (tells : Tells workplace path address new body account seed) (xpub : String)
    (scheme : Scheme) (chain : Chain) :
    (upgraded workplace).wallet.synchronizer.allocator.count xpub scheme chain = 0 := by
  calc (upgraded workplace).wallet.synchronizer.allocator.count xpub scheme chain
    _ = (told workplace).wallet.synchronizer.allocator.count xpub scheme chain := by
      simp only [upgraded, Wallet.perform, Reply.answer, Wallet.upgradeToSegwit]
      exact count_mutate
    _ = 0 := tells.count xpub scheme chain

end Toy

namespace Wallet

/-- The address that a new wallet tells is still found to be its own after an upgrade to segwit, as
the lookahead reaches as far as its index. -/
theorem told_address_stays_own_upgraded : ∃ address, (Toy.told Toy.workplace).result = .ok address ∧
    (Toy.upgraded Toy.workplace).wallet.ownsAddress Toy.workplace address = .ok true := by
  obtain ⟨_, _, path, starts⟩ := Toy.workplace_hosts.starts
  obtain ⟨address, _, _, _, _, tells⟩ := Toy.workplace_hosts.tells starts
  obtain ⟨new, _, account, _, upgrades⟩ := tells.upgrades Toy.workplace_hosts (by decide)
  obtain ⟨index, _, _, isNext, _, _, stays⟩ :=
    starts.reached.told_address_stays_own Toy.keySource_tellsApart Toy.keySource_isNormal
      rfl tells.isTold
  obtain ⟨isChain, isFirst⟩ := nextOn_eq_ok.mp starts.isNext
  cases ((nextReceivePosition_of_chain isChain).trans isFirst).symm.trans isNext
  have goesOn : (Command.upgradeToSegwit none).GoesOn := trivial
  have leads : Leads Toy.keySource (Toy.told Toy.workplace).wallet
      (Toy.upgraded Toy.workplace).wallet :=
    .perform _ _ .refl rfl goesOn
  rcases stays _ Toy.workplace leads rfl with owns | ⟨_, isFull⟩ | ⟨_, _, outOfSight⟩
  · exact ⟨address, tells.isTold, owns⟩
  · exact absurd isFull upgrades.not_isFull
  · have isPast := outOfSight.isPast
    have reaches : Toy.workplace.config.lookahead.toNat = 20 := rfl
    have isZero : (0 : UInt32).toNat = 0 := rfl
    omega

end Wallet

namespace Toy

open Wallet

variable {workplace : Workplace} {path address : String} {new : Committed} {body : Body}
  {account : Account} {seed : Bytes}

/-- The wallet that told an address, after the last index of all was given a label. -/
def lastLabelled (workplace : Workplace) : Reply Answer :=
  (told workplace).wallet.perform workplace (told workplace).store ⟨"", "", []⟩
    (.reserve 0 0xffffffff "last")

def filled (workplace : Workplace) : Wallet :=
  ((lastLabelled workplace).wallet.perform workplace (lastLabelled workplace).store ⟨"", "", []⟩
    (.advance 0 .legacy .receive 0xfffffffe)).wallet

theorem Labelled.labelAddress {payload : Payload}
    (labelled : Labelled payload 0 body account seed) :
    payload.account 0 = .ok account ∧ account.addressLabels.find? 0xffffffff = none ∧
      ∃ next, payload.labelAddress 0 0xffffffff "last" = .ok next := by
  have isBody := Payload.body?_of_bodies labelled.onlyBody
  have isAccount : payload.account 0 = .ok account := by
    rw [Payload.account_eq_ok, Payload.accounts_of_body isBody, labelled.accounts]
    rfl
  have unlabelled : account.addressLabels.find? 0xffffffff = none := by
    rw [labelled.labels]
    decide
  have given : account.withAddressLabel 0xffffffff "last" =
      .ok { account with addressLabels := account.addressLabels.insert 0xffffffff "last" } :=
    Account.withAddressLabel_eq_ok.mpr
      ⟨by decide, fun _ isLabel => (nomatch unlabelled.symm.trans isLabel), rfl⟩
  refine ⟨isAccount, unlabelled, ?_⟩
  simp only [Payload.labelAddress, isAccount, given, liftError_ok, bind_ok, Payload.withAccount,
    Payload.requireBody, isBody, Body.withAccount, labelled.accounts]
  exact ⟨_, rfl⟩

theorem Tells.reserves (tells : Tells workplace path address new body account seed)
    (hosts : Hosts workplace) :
    ∃ last, new.payload.labelAddress 0 0xffffffff "last" = .ok last.payload ∧
      (lastLabelled workplace).wallet.synchronizer.InStep (lastLabelled workplace).store last := by
  obtain ⟨device, hasDevice⟩ := hosts.hasDevice
  obtain ⟨isAccount, unlabelled, next, applied⟩ := tells.labelled.labelAddress
  have valid := (tells.reached.keeps keySource_tellsApart new tells.inStep.isCommitted).valid
  have isCall : (told workplace).wallet.call? workplace ⟨"", "", []⟩
      (.reserve 0 0xffffffff "last") =
      some (.change workplace.services false (.labelAddress 0 0xffffffff "last")) := by
    simp [call?, tells.isPayload, Except.toOption, isAccount, unlabelled]
  obtain ⟨last, rfl, _, inStep⟩ := change_in_step (.labelAddress 0 0xffffffff "last") isCall
    tells.inStep hosts.encrypts hasDevice valid applied (fun _ isOther =>
      Transition.noConfusion isOther) fun isTrue => absurd isTrue Bool.false_ne_true
  exact ⟨last, applied, inStep⟩

theorem Tells.fills (tells : Tells workplace path address new body account seed)
    (hosts : Hosts workplace) :
    (filled workplace).ownsAddress workplace address = .error .endless := by
  have sameKeys := congrArg Services.keys hosts.services
  obtain ⟨last, applied, inStep⟩ := tells.reserves hosts
  have isPayload := payload_of_committed inStep.isCommitted
  have goesOn : (Command.reserve 0 0xffffffff "last").GoesOn := trivial
  have reached : Reached keySource (lastLabelled workplace).wallet :=
    tells.reached.performed _ _ sameKeys goesOn
  have keeps := reached.keeps keySource_tellsApart
  have isThird : last.payload.version = .v3 :=
    (Payload.version_of_labelAddress applied).trans tells.labelled.isThird
  have isChain : (lastLabelled workplace).wallet.accountChain 0 = .ok (.legacy, "pub-" ++ path) :=
    (step_perform _ _ _ sameKeys goesOn).accountChain keySource_tellsApart
      (tells.reached.keeps keySource_tellsApart) tells.isChain isPayload (by rw [isThird]; rfl)
  have advanced : filled workplace =
      ((lastLabelled workplace).wallet.advanceChain ("pub-" ++ path) .legacy .receive
        0xfffffffe).2 := by
    simp only [filled, Wallet.perform, offline, Wallet.advance, schemeXpub_of_accountChain isChain]
  obtain ⟨_, _, isOther, isOwn, reserved⟩ := keeps.reserved_of_accountChain isChain
  cases isPayload.symm.trans isOther
  obtain ⟨_, isSame, isLabelled⟩ := Payload.label_of_labelAddress applied
  cases isOwn.symm.trans isSame
  have isLast : ((lastLabelled workplace).wallet.synchronizer.allocator.state ("pub-" ++ path)
      .legacy).reserved.find? 0xffffffff = some "last" :=
        (congrArg (·.find? 0xffffffff) reserved).trans isLabelled
  have failed : (filled workplace).synchronizer.allocator.nextFree ("pub-" ++ path) .legacy =
      .error .endless := by
    rw [advanced, advanceChain]
    refine Allocator.nextFree_eq_error.mpr ⟨?_, rfl⟩
    rw [Allocator.state_advance]
    exact IndexState.firstFree?_of_last isLast
  -- Counting on leaves the payload, and with it the chain of the account, as they are.
  have stillPayload : (filled workplace).payload = .ok last.payload := by
    rw [advanced]
    exact isPayload
  have stillChain : (filled workplace).accountChain 0 = .ok (.legacy, "pub-" ++ path) := by
    rw [advanced]
    exact isChain
  exact ownsAddress_of_third (keeps last inStep.isCommitted).numbered stillPayload isThird
    stillChain failed

end Toy

namespace Wallet

/-- With a lookahead of nothing, the address that a new wallet tells is not found to be its own any
more after an upgrade to segwit. Nor is it where no index is left to be handed out, since the search
for its owner does not end then. -/
theorem told_address_can_be_lost : ∃ address, (Toy.told Toy.quiet).result = .ok address ∧
    (Toy.upgraded Toy.quiet).wallet.ownsAddress Toy.quiet address = .ok false ∧
    (Toy.filled Toy.quiet).ownsAddress Toy.quiet address = .error .endless := by
  obtain ⟨_, _, _, starts⟩ := Toy.quiet_hosts.starts
  obtain ⟨address, _, _, _, _, tells⟩ := Toy.quiet_hosts.tells starts
  obtain ⟨new, _, _, _, upgrades⟩ := tells.upgrades Toy.quiet_hosts (by decide)
  refine ⟨address, tells.isTold, ownsAddress_eq_false.mpr ?_, tells.fills Toy.quiet_hosts⟩
  intro payload isPayload account isIn derivation isOwn chain
  cases (payload_of_committed upgrades.left.isCommitted).symm.trans isPayload
  have keeps := upgrades.reached.keeps Toy.keySource_tellsApart
  obtain ⟨next, isNext⟩ : ∃ next, (Toy.upgraded Toy.quiet).wallet.synchronizer.allocator.nextIndex
      derivation.xpub derivation.scheme chain = .ok next := by
    cases chain with
    | change => exact ⟨_, rfl⟩
    | receive =>
      by_contra fails
      obtain ⟨_, failed⟩ := exists_error fun next isNext => fails ⟨next, isNext⟩
      exact upgrades.not_isFull (keeps.isFull isPayload isIn isOwn failed).2
  refine ⟨_, searchWidth_eq_ok.mpr ⟨next, isNext, rfl⟩, fun index within alsoDerived => ?_⟩
  -- The address spells its scheme. The legacy chains are not searched at all.
  have isLegacy := Toy.scheme_of_address tells.derived alsoDerived
  have isOther : derivation.scheme ≠ account.defaultScheme := by
    rw [← isLegacy, keeps.defaultScheme isPayload isIn, upgrades.isFourth]
    decide
  have atStart := tells.count_upgraded derivation.xpub derivation.scheme
  have isZero : next.toNat = 0 := by
    cases chain with
    | receive =>
      cases isNext.symm.trans (keeps.nextFree_of_other isPayload isIn isOwn isOther)
      exact atStart .receive
    | change =>
      cases isNext
      exact atStart .change
  have reaches : Toy.quiet.config.lookahead.toNat = 0 := rfl
  rw [toNat_satAdd32, isZero, reaches] at within
  exact Nat.not_lt_zero _ within

end Wallet

end Coffer
