import Coffer.Payload.Transition
import Coffer.Proofs.Allocator
import Coffer.Proofs.Payload.SecondPassword
import Coffer.Proofs.Synchronizer.Outcomes
import Coffer.Wallet.Command
/-!
# What a command does to a wallet

A command that goes on with a wallet leaves its payload and may move counters, or refreshes the
counters and takes over the labels of the payload anew, or saves a changed payload and takes over
its labels.
-/

namespace Coffer

/-- Transparent collaborators and an indexer that knows nothing. -/
def Toy.workplace : Workplace :=
  ⟨{ Config.standard with device := some ⟨"android", "1"⟩ }, services, .ofTables {}⟩

namespace Synchronizer

variable {synchronizer : Synchronizer} {surroundings : Surroundings} {store : Store}

/-- A replacement fails and leaves the synchronizer alone, or what it planned is valid and
committed. -/
theorem perform_cases (replacement : Replacement) (synchronizer : Synchronizer)
    (surroundings : Surroundings) (store : Store) :
    (∃ cause, (replacement.perform synchronizer surroundings store).result = .error cause ∧
      (replacement.perform synchronizer surroundings store).synchronizer = synchronizer) ∨
    ∃ plan committed, replacement.plan synchronizer = .ok plan ∧
      committed.payload = plan.candidate ∧ plan.candidate.validate = .ok () ∧
      (replacement.perform synchronizer surroundings store).result = .ok committed ∧
      (replacement.perform synchronizer surroundings store).synchronizer =
        synchronizer.commit committed plan.password := by
  have outcome := Call.outcome (.replace replacement) synchronizer surroundings store
  rw [Call.perform] at outcome
  generalize replacement.perform synchronizer surroundings store = attempt at outcome ⊢
  cases outcome with
  | failed => exact .inl ⟨_, rfl, rfl⟩
  | loaded _ source =>
    rcases source with isCall | ⟨_, _, _, isCall, _⟩
    · cases isCall
    · cases isCall
  | inserted isCall => cases isCall
  | updated isCall planned samePayload _ _ _ _ saved =>
    cases isCall
    exact .inr ⟨_, _, planned, samePayload, samePayload ▸ saved.valid,
      by rw [saved.attempt_eq]; rfl, by rw [saved.attempt_eq]; rfl⟩

/-- What is built from the committed payload is committed in its place, unless the save fails. -/
theorem mutate_cases (synchronizer : Synchronizer) (surroundings : Surroundings) (store : Store)
    (announce : Bool) (build : Payload → String → Except WalletError Payload) :
    (∃ cause, (synchronizer.mutate surroundings store announce build).result = .error cause ∧
      (synchronizer.mutate surroundings store announce build).synchronizer = synchronizer) ∨
    ∃ old new password, synchronizer.committed = some old ∧
      build old.payload password = .ok new.payload ∧
      new.payload.validate = .ok () ∧
      (synchronizer.mutate surroundings store announce build).result = .ok new ∧
      (synchronizer.mutate surroundings store announce build).synchronizer =
        synchronizer.commit new password := by
  refine (perform_cases (.mutate announce build) synchronizer surroundings store).imp_right ?_
  rintro ⟨plan, new, planned, samePayload, valid, succeeds, commits⟩
  obtain ⟨previous, isCurrent, planned⟩ := bind_eq_ok.mp planned
  obtain ⟨password, _, planned⟩ := bind_eq_ok.mp planned
  obtain ⟨candidate, built, planned⟩ := bind_eq_ok.mp planned
  cases planned
  exact ⟨previous, new, password, current_eq_ok isCurrent, samePayload ▸ built, samePayload ▸ valid,
    succeeds, commits⟩

/-- A new password leaves the committed payload in its place, unless the save fails. -/
theorem rewrap_cases (synchronizer : Synchronizer) (surroundings : Surroundings) (store : Store)
    (password : String) :
    (synchronizer.rewrap surroundings store password).synchronizer = synchronizer ∨
    ∃ old new, synchronizer.committed = some old ∧ new.payload = old.payload ∧
      new.payload.validate = .ok () ∧
      (synchronizer.rewrap surroundings store password).synchronizer =
        synchronizer.commit new password := by
  refine (perform_cases (.rewrap password) synchronizer surroundings store).imp
    (fun ⟨_, _, same⟩ => same) ?_
  rintro ⟨plan, new, planned, samePayload, valid, _, commits⟩
  obtain ⟨previous, isCurrent, planned⟩ := bind_eq_ok.mp planned
  cases planned
  exact ⟨previous, new, current_eq_ok isCurrent, samePayload, samePayload ▸ valid, commits⟩

end Synchronizer

/-- A payload is what it was, or what a change with a source of keys made of it. -/
def Payload.ChangesTo (keys : KeySource) (payload next : Payload) : Prop :=
  next = payload ∨ ∃ (services : Services) (transition : Transition), services.keys = keys ∧
    transition.apply services payload = .ok next

namespace Wallet

def Command.GoesOn : Command → Prop
  | .create .. | .recover .. | .load .. | .loadText .. | .wipe => False
  | _ => True

/-- What a command that goes on can do to a wallet. -/
inductive Step (keys : KeySource) (wallet later : Wallet) : Prop
  | rested (same : later.synchronizer.committed = wallet.synchronizer.committed)
      (forward : wallet.synchronizer.allocator.Forward later.synchronizer.allocator)
    (spares : ∀ committed, wallet.synchronizer.committed = some committed →
      wallet.synchronizer.allocator.Spares committed.payload later.synchronizer.allocator)
  /-- The payload stays, counters may have moved, and the labels are taken over anew. -/
  | refreshed {committed : Committed} {allocator : Allocator}
      (isCommitted : wallet.synchronizer.committed = some committed)
      (same : later.synchronizer.committed = some committed)
      (forward : wallet.synchronizer.allocator.Forward allocator)
      (spares : wallet.synchronizer.allocator.Spares committed.payload allocator)
      (synced : later.synchronizer.allocator = allocator.syncLabels committed.payload)
  | saved {old new : Committed} (wasCommitted : wallet.synchronizer.committed = some old)
      (isCommitted : later.synchronizer.committed = some new)
      (changed : old.payload.ChangesTo keys new.payload)
      (valid : new.payload.validate = .ok ())
      (synced : later.synchronizer.allocator = wallet.synchronizer.allocator.syncLabels new.payload)

variable {keys : KeySource} {wallet : Wallet} {surroundings : Surroundings} {workplace : Workplace}
  {store : Store} {announce : Bool}

theorem step_of_same {later : Wallet} (same : later.synchronizer = wallet.synchronizer) :
    Step keys wallet later :=
  .rested (by rw [same]) (by rw [same]; exact .refl _) (by rw [same]; exact fun _ _ => .refl _ _)

theorem step_settle_mutate {build : Payload → String → Except WalletError Payload}
    (changes : ∀ committed password next, wallet.synchronizer.committed = some committed →
      build committed.payload password = .ok next → committed.payload.ChangesTo keys next) :
    Step keys wallet (wallet.settle
      (wallet.synchronizer.mutate surroundings store announce build)).wallet := by
  rcases wallet.synchronizer.mutate_cases surroundings store announce build with
    ⟨_, _, same⟩ | ⟨old, new, password, wasCommitted, built, valid, _, commits⟩
  · exact step_of_same same
  · have changed := changes old password new.payload wasCommitted built
    refine .saved wasCommitted ?_ changed valid ?_
    · rw [settle, commits]
      rfl
    · rw [settle, commits]
      rfl

theorem step_mutate {build : Payload → Except WalletError Payload} (transition : Transition)
    (isChange : ∀ payload next, build payload = .ok next →
      transition.apply workplace.services payload = .ok next) :
    Step workplace.services.keys wallet (wallet.mutate workplace store announce build).wallet :=
  step_settle_mutate fun _ _ next _ built =>
    .inr ⟨workplace.services, transition, rfl, isChange _ next built⟩

theorem step_save : Step keys wallet (wallet.mutate workplace store announce .ok).wallet :=
  step_settle_mutate fun _ _ _ _ built => .inl (Except.ok.inj built).symm

theorem payload_eq_ok {payload : Payload} (isPayload : wallet.payload = .ok payload) :
    ∃ committed, wallet.synchronizer.committed = some committed ∧ committed.payload = payload := by
  obtain ⟨committed, isCurrent, same⟩ := map_eq_ok.mp isPayload
  exact ⟨committed, Synchronizer.current_eq_ok isCurrent, same⟩

theorem payload_of_committed {committed : Committed}
    (isCommitted : wallet.synchronizer.committed = some committed) :
    wallet.payload = .ok committed.payload := by
  rw [payload, Synchronizer.current, isCommitted, map_ok]

theorem payload_congr {later : Wallet}
    (same : later.synchronizer.committed = wallet.synchronizer.committed) :
    later.payload = wallet.payload := by
  rw [payload, payload, Synchronizer.current, Synchronizer.current, same]

theorem step_attachKey {wif : String} {label second : Option String} :
    Step workplace.services.keys wallet
      (wallet.attachKey workplace store wif label second).wallet := by
  simp only [attachKey]
  split
  · exact step_of_same rfl
  · rename_i payload entry imported
    obtain ⟨device, _, imported⟩ := bind_eq_ok.mp imported
    obtain ⟨old, isPayload, imported⟩ := bind_eq_ok.mp imported
    obtain ⟨committed, isCommitted, rfl⟩ := payload_eq_ok isPayload
    refine step_settle_mutate fun other _ next isOther built => ?_
    cases isCommitted.symm.trans isOther
    cases built
    exact .inr ⟨workplace.services, .importKey wif label device second, rfl,
      map_eq_ok.mpr ⟨_, imported, rfl⟩⟩

theorem step_nextReceiveAndReserve {position : UInt64} {label : String}
    (sameKeys : workplace.services.keys = keys) :
    Step keys wallet (wallet.nextReceiveAndReserve workplace store position label).wallet := by
  subst sameKeys
  simp only [nextReceiveAndReserve]
  split
  · exact step_of_same rfl
  · exact step_mutate (.labelAddress position _ label) fun _ _ => id

theorem accountChain_eq_ok {position : UInt64} {scheme : Scheme} {xpub : String} :
    wallet.accountChain position = .ok (scheme, xpub) ↔
      ∃ payload account, wallet.payload = .ok payload ∧
      payload.account position = .ok account ∧ account.defaultScheme = scheme ∧
        account.defaultXpub? = some xpub := by
  have isDefault (account : Account) : defaultChain account = .ok (scheme, xpub) ↔
      account.defaultScheme = scheme ∧ account.defaultXpub? = some xpub := by
    unfold defaultChain
    cases account.defaultXpub? <;> simp
  simp only [accountChain, bind_eq_ok, liftError_eq_ok, isDefault]
  constructor
  · rintro ⟨payload, isPayload, account, isAccount, isOwn⟩
    exact ⟨payload, account, isPayload, isAccount, isOwn⟩
  · rintro ⟨payload, account, isPayload, isAccount, isOwn⟩
    exact ⟨payload, isPayload, account, isAccount, isOwn⟩

theorem nextOn_eq_ok {position : UInt64} {chain : Chain} {scheme : Scheme} {xpub : String}
    {index : UInt32} :
    wallet.nextOn position chain = .ok (scheme, xpub, index) ↔
      wallet.accountChain position = .ok (scheme, xpub) ∧
      wallet.synchronizer.allocator.nextIndex xpub scheme chain = .ok index := by
  simp only [nextOn, bind_eq_ok, pure_eq_ok, Except.ok.injEq, Prod.mk.injEq]
  constructor
  · rintro ⟨_, isChain, _, isNext, rfl, rfl, rfl⟩
    exact ⟨isChain, isNext⟩
  · rintro ⟨isChain, isNext⟩
    exact ⟨_, isChain, _, isNext, rfl, rfl, rfl⟩

theorem hasChain_of_xpub? {payload : Payload} {position : UInt64} {account : Account}
    {scheme : Scheme} {xpub : String} (isAccount : payload.account position = .ok account)
    (hasXpub : account.xpub? scheme = some xpub) : payload.HasChain xpub scheme := by
  obtain ⟨derivation, found, isXpub⟩ := Option.map_eq_some_iff.mp hasXpub
  have hasScheme := List.find?_some found
  exact ⟨account, List.mem_of_getElem? (Payload.account_eq_ok.mp isAccount), derivation,
    List.mem_of_find?_eq_some found, isXpub, of_decide_eq_true hasScheme⟩

theorem hasChain_of_accountChain {position : UInt64} {scheme : Scheme} {xpub : String}
    (isChain : wallet.accountChain position = .ok (scheme, xpub)) :
    ∃ payload, wallet.payload = .ok payload ∧ payload.HasChain xpub scheme := by
  obtain ⟨payload, account, isPayload, isAccount, rfl, hasXpub⟩ := accountChain_eq_ok.mp isChain
  exact ⟨payload, isPayload, hasChain_of_xpub? isAccount hasXpub⟩

theorem hasChain_of_schemeXpub {position : UInt64} {scheme : Scheme} {xpub : String}
    (isXpub : wallet.schemeXpub position scheme = .ok xpub) :
    ∃ payload, wallet.payload = .ok payload ∧ payload.HasChain xpub scheme := by
  obtain ⟨payload, isPayload, isXpub⟩ := bind_eq_ok.mp isXpub
  obtain ⟨account, isAccount, isXpub⟩ := bind_eq_ok.mp isXpub
  rw [liftError_eq_ok] at isAccount
  split at isXpub
  · rename_i found
    cases isXpub
    exact ⟨payload, isPayload, hasChain_of_xpub? isAccount found⟩
  · cases isXpub

theorem step_advanceChain {xpub : String} {scheme : Scheme} {chain : Chain} {observed : UInt32}
    (isOwn : ∃ payload, wallet.payload = .ok payload ∧ payload.HasChain xpub scheme) :
    Step keys wallet (wallet.advanceChain xpub scheme chain observed).2 := by
  obtain ⟨payload, isPayload, hasChain⟩ := isOwn
  refine .rested rfl (Allocator.forward_advance chain observed) fun committed isCommitted => ?_
  cases (payload_of_committed isCommitted).symm.trans isPayload
  exact Allocator.spares_modify hasChain

theorem step_refreshIndexes : Step keys wallet (wallet.refreshIndexes workplace).2.1 := by
  unfold refreshIndexes
  split
  · exact step_of_same rfl
  · rename_i payload isPayload
    obtain ⟨committed, isCommitted, rfl⟩ := payload_eq_ok isPayload
    simp only
    split
    · exact step_of_same rfl
    · refine .refreshed isCommitted isCommitted (Allocator.forward_observeReport _ _)
        (Allocator.spares_observeReport _ fun derivation isIn => ?_) rfl
      obtain ⟨account, isAccount, isOwn⟩ := List.mem_flatMap.mp isIn
      exact ⟨account, isAccount, derivation, isOwn, rfl, rfl⟩

theorem step_perform (wallet : Wallet) (store : Store) (draw : Draw) {command : Command}
    (sameKeys : workplace.services.keys = keys) (goesOn : command.GoesOn) :
    Step keys wallet (wallet.perform workplace store draw command).wallet := by
  subst sameKeys
  cases command with
  | create => exact goesOn.elim
  | recover => exact goesOn.elim
  | load => exact goesOn.elim
  | loadText => exact goesOn.elim
  | wipe => exact goesOn.elim
  | save => exact step_save
  | announce => exact step_save
  | updatePassword password =>
    simp only [perform, Reply.answer, updatePassword]
    split
    · exact step_of_same rfl
    · rcases wallet.synchronizer.rewrap_cases workplace.surroundings store password with
        same | ⟨old, new, wasCommitted, samePayload, valid, commits⟩
      · exact step_of_same same
      · refine .saved wasCommitted ?_ (.inl samePayload) valid ?_
        · rw [settle, commits]
          rfl
        · rw [settle, commits]
          rfl
  | upgradeToAccounts label second =>
    exact step_mutate (.upgradeToAccounts draw.entropy label second) fun _ _ => id
  | upgradeToSegwit second => exact step_mutate (.upgradeToSegwit second) fun _ _ => id
  | enableSecond second =>
    refine step_settle_mutate fun committed password next _ built => ?_
    split at built
    · cases built
    · exact .inr ⟨workplace.services, .setSecond second, rfl, built⟩
  | disableSecond second => exact step_mutate (.unsetSecond second) fun _ _ => id
  | addAccount label second => exact step_mutate (.addAccount label second) fun _ _ => id
  | labelAccount index label => exact step_mutate (.labelAccount index label) fun _ _ => id
  | archiveAccount index archived =>
    exact step_mutate (.archiveAccount index archived) fun _ _ => id
  | chooseDefault index => exact step_mutate (.chooseDefault index) fun _ _ => id
  | markVerified => exact step_mutate (.markVerified true) fun _ _ => id
  | watch address label => exact step_mutate (.addImported (.watchOnly address label)) fun _ _ => id
  | importKey => exact step_attachKey
  | setKey => exact step_attachKey
  | archiveImported address archived =>
    exact step_mutate (.archiveImported address archived) fun _ _ => id
  | labelImported address label => exact step_mutate (.labelImported address label) fun _ _ => id
  | setNote subject note => exact step_mutate (.setNote subject note) fun _ _ => id
  | reserve account index label =>
    simp only [perform, Reply.answer, reserve]
    split
    · exact step_of_same rfl
    · split
      · exact step_of_same rfl
      · exact step_mutate (.labelAddress account index label) fun _ _ => id
  | nextReceiveAndReserve => exact step_nextReceiveAndReserve rfl
  | advance account scheme chain observed =>
    simp only [perform, offline, advance]
    split
    · exact step_of_same rfl
    · rename_i isXpub
      exact step_advanceChain (hasChain_of_schemeXpub isXpub)
  | increment account chain =>
    simp only [perform, offline, increment]
    split
    · exact step_of_same rfl
    · rename_i isNext
      exact step_advanceChain (hasChain_of_accountChain (nextOn_eq_ok.mp isNext).1)
  | refreshIndexes => exact step_refreshIndexes
  | refreshBalances =>
    simp only [perform, offline, refreshBalances]
    split <;> exact step_of_same rfl
  | adjust => exact step_of_same rfl

end Wallet

end Coffer
