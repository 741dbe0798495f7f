import Coffer.Proofs.Wallet.Reservations
/-!
# Reservations that fail

A call for the next address picks an index, saves the payload in which it has the label, and derives
the address last of all. Whatever fails before the save is done leaves everything alone. An index
whose address cannot be derived is found out too late: the label is saved by then and stays.
-/

namespace Coffer

namespace Wallet

variable {wallet : Wallet} {workplace : Workplace} {store : Store} {position : UInt64}
  {label : String} {scheme : Scheme} {xpub : String} {cause : WalletError}

/-- Nothing came of a request: the wallet is as it was, and so are all records of the store. -/
structure LeftAlone (wallet : Wallet) (store : Store) {α : Type} (reply : Reply α) : Prop where
  wallet : reply.wallet = wallet
  records : reply.store.records = store.records
  locked : reply.store.locked = store.locked

/-- A label is there to stay: an index was given it, and it is in the payload that the wallet has
committed now and in the record of the store. -/
structure Stranded (wallet : Wallet) (store : Store) (position : UInt64) (index : UInt32)
    (label : String) {α : Type} (reply : Reply α) (old new : Committed) (record : Record) :
    Prop where
  wasCommitted : wallet.synchronizer.committed = some old
  labelled : old.payload.labelAddress position index label = .ok new.payload
  isCommitted : reply.wallet.synchronizer.committed = some new
  isStored : reply.store = store.put new.payload.guid record
  checksum : record.checksum = new.checksum

theorem LeftAlone.congr {α β : Type} {reply : Reply α} {other : Reply β}
    (leftAlone : LeftAlone wallet store reply)
    (sameWallet : other.wallet = reply.wallet) (sameStore : other.store = reply.store) :
    LeftAlone wallet store other where
  wallet := sameWallet.trans leftAlone.wallet
  records := (congrArg Store.records sameStore).trans leftAlone.records
  locked := (congrArg Store.locked sameStore).trans leftAlone.locked

theorem Stranded.congr {α β : Type} {reply : Reply α} {other : Reply β} {index : UInt32}
    {old new : Committed} {record : Record}
    (stranded : Stranded wallet store position index label reply old new record)
    (sameWallet : other.wallet = reply.wallet) (sameStore : other.store = reply.store) :
    Stranded wallet store position index label other old new record :=
  { stranded with
    isCommitted := sameWallet ▸ stranded.isCommitted
    isStored := sameStore.trans stranded.isStored }

theorem leftAlone_of_mutate {announce : Bool} {build : Payload → Except WalletError Payload}
    (failed : (wallet.mutate workplace store announce build).result = .error cause) :
    LeftAlone wallet store (wallet.mutate workplace store announce build) := by
  have course := (Call.replace (.mutate announce fun payload _ => build payload)).course
    wallet.synchronizer workplace.surroundings store
  obtain ⟨unchanged, left⟩ := course.of_error failed
  have sameWallet : (wallet.mutate workplace store announce build).wallet = wallet :=
    congrArg (fun synchronizer => { wallet with synchronizer }) unchanged
  rcases left with ⟨untouched, _⟩ | ⟨used, _⟩
  · exact ⟨sameWallet, congrArg Store.records untouched, congrArg Store.locked untouched⟩
  · have sameRecords := congrArg Store.records used
    have sameLocks := congrArg Store.locked used
    exact ⟨sameWallet, sameRecords, sameLocks⟩

theorem stranded_of_mutate {index : UInt32} {new : Committed}
    (saved : (wallet.mutate workplace store false fun payload =>
      payload.labelAddress position index label).result =
      .ok new) : ∃ old record, Stranded wallet store position index label
        (wallet.mutate workplace store false fun payload =>
          payload.labelAddress position index label) old new record := by
  have performed : ((Replacement.mutate false fun payload _ =>
    payload.labelAddress position index label).perform
    wallet.synchronizer workplace.surroundings store).result = .ok new := saved
  obtain ⟨plan, _, record, planned, samePayload, _, _, _, _, _, left⟩ :=
    Synchronizer.replace_eq_ok performed
  obtain ⟨previous, isCurrent, planned⟩ := bind_eq_ok.mp planned
  obtain ⟨password, _, planned⟩ := bind_eq_ok.mp planned
  obtain ⟨candidate, built, planned⟩ := bind_eq_ok.mp planned
  cases planned
  refine ⟨previous, record, Synchronizer.current_eq_ok isCurrent, samePayload ▸ built, ?_, ?_,
    left.checksum⟩
  · exact congrArg (fun attempt => attempt.synchronizer.committed) left.attempt_eq
  · exact congrArg (fun attempt => attempt.store) left.attempt_eq

/-- A call for the next address that fails leaves everything alone if the address can be derived.
Otherwise it may be that the label was saved before the derivation failed; the label then stays,
here and in the store. -/
theorem label_outlives_failed_derivation
    (failed : (wallet.nextReceiveAndReserve workplace store position label).result = .error cause) :
    (∀ scheme xpub index address, wallet.accountChain position = .ok (scheme, xpub) →
      wallet.nextReceivePosition position = .ok index →
      workplace.services.keys.addressAt xpub scheme .receive index = .ok address →
      LeftAlone wallet store (wallet.nextReceiveAndReserve workplace store position label)) ∧
    (LeftAlone wallet store (wallet.nextReceiveAndReserve workplace store position label) ∨
      ∃ scheme xpub index reason old new record, wallet.accountChain position = .ok (scheme, xpub) ∧
        wallet.nextReceivePosition position = .ok index ∧
        workplace.services.keys.addressAt xpub scheme .receive index = .error reason ∧
        cause = .derivation reason ∧
        Stranded wallet store position index label
          (wallet.nextReceiveAndReserve workplace store position label)
          old new record) := by
  cases next : wallet.nextOn position .receive with
  | error missing =>
    have refused : wallet.nextReceiveAndReserve workplace store position label =
        wallet.refuse store missing := by
      rw [nextReceiveAndReserve, next]
    have leftAlone : LeftAlone wallet store
        (wallet.nextReceiveAndReserve workplace store position label) := by
      rw [refused]
      exact ⟨rfl, rfl, rfl⟩
    exact ⟨fun _ _ _ _ _ _ _ => leftAlone, .inl leftAlone⟩
  | ok spot =>
    obtain ⟨scheme, xpub, index⟩ := spot
    obtain ⟨isChain, isFree⟩ := nextOn_eq_ok.mp next
    have isNext := (nextReceivePosition_of_chain isChain).trans isFree
    obtain ⟨sameWallet, sameStore, sameResult⟩ :=
      nextReceiveAndReserve_of_next workplace store label next
    rw [sameResult] at failed
    rcases bind_eq_error.mp failed with unsaved | ⟨new, saved, underived⟩
    · have leftAlone := (leftAlone_of_mutate unsaved).congr sameWallet sameStore
      exact ⟨fun _ _ _ _ _ _ _ => leftAlone, .inl leftAlone⟩
    · obtain ⟨reason, underivable, isCause⟩ := liftError_eq_error.mp underived
      obtain ⟨old, record, stranded⟩ := stranded_of_mutate saved
      constructor
      · intro _ _ _ address isOther isOtherNext derived
        cases isChain.symm.trans isOther
        cases isNext.symm.trans isOtherNext
        cases underivable.symm.trans derived
      · exact .inr ⟨scheme, xpub, index, reason, old, new, record, isChain, isNext,
          underivable, isCause.symm, stranded.congr sameWallet sameStore⟩

/-- A call for the next address of a new wallet that the store refuses leaves everything alone. -/
theorem refused_reservation_is_left_alone : ∃ cause : WalletError,
    let wallet := (Toy.created Toy.workplace).wallet
    let store := (Toy.created Toy.workplace).store.failNext .timeout
    Reached Toy.keySource wallet ∧
      (wallet.nextReceiveAndReserve Toy.workplace store 0 "rent").result = .error cause ∧
      LeftAlone wallet store (wallet.nextReceiveAndReserve Toy.workplace store 0 "rent") := by
  obtain ⟨_, _, path, starts⟩ := Toy.workplace_hosts.starts
  obtain ⟨address, derived⟩ :=
    Toy.addressAt_pub path .legacy .receive (by decide : (0 : UInt32) < 0x80000000)
  have isFirst := (nextOn_eq_ok.mp starts.isNext).2
  have refuses (new : Committed) : ((Toy.created Toy.workplace).wallet.reserving Toy.workplace
      ((Toy.created Toy.workplace).store.failNext .timeout) 0 0 "rent").result ≠ .ok new := by
    intro saved
    have performed : ((Replacement.mutate false fun payload _ =>
      payload.labelAddress 0 0 "rent").perform (Toy.created Toy.workplace).wallet.synchronizer
        Toy.workplace.surroundings
      ((Toy.created Toy.workplace).store.failNext .timeout)).result = .ok new := saved
    obtain ⟨_, _, _, _, _, _, _, _, _, _, left⟩ := Synchronizer.replace_eq_ok performed
    cases left.noFailure
  cases result : ((Toy.created Toy.workplace).wallet.nextReceiveAndReserve Toy.workplace
      ((Toy.created Toy.workplace).store.failNext .timeout) 0 "rent").result with
  | error cause =>
    refine ⟨cause, starts.reached, result, ?_⟩
    exact (label_outlives_failed_derivation result).1 .legacy _ 0 address starts.isChain
      ((nextReceivePosition_of_chain starts.isChain).trans isFirst) derived
  | ok address =>
    obtain ⟨_, _, sameResult⟩ := nextReceiveAndReserve_of_next Toy.workplace _ "rent" starts.isNext
    obtain ⟨new, saved, _⟩ := bind_eq_ok.mp (sameResult.symm.trans result)
    exact absurd saved (refuses new)

theorem schemeXpub_of_accountChain (isChain : wallet.accountChain position = .ok (scheme, xpub)) :
    wallet.schemeXpub position scheme = .ok xpub := by
  obtain ⟨payload, account, isPayload, isAccount, rfl, hasXpub⟩ := accountChain_eq_ok.mp isChain
  rw [Account.defaultXpub?] at hasXpub
  simp only [schemeXpub, isPayload, bind_ok, isAccount, liftError_ok, hasXpub, pure_eq_ok]

end Wallet

namespace Toy

open Wallet

/-- A new wallet after the last index whose address can be derived was seen in use. -/
def usedUp : Wallet :=
  ((created workplace).wallet.perform workplace (created workplace).store ⟨"", "", []⟩
    (.advance 0 .legacy .receive 0x7fffffff)).wallet

theorem usedUp_has_chain {committed : Committed} {account : Account} {path : String}
    (starts : Starts workplace committed account path) :
    Reached keySource usedUp ∧
      usedUp.synchronizer.InStep (created workplace).store committed ∧
      usedUp.nextOn 0 .receive = .ok (.legacy, "pub-" ++ path, 0x80000000) := by
  have goesOn : (Wallet.Command.advance 0 .legacy .receive 0x7fffffff).GoesOn := trivial
  have reached : Reached keySource usedUp := starts.reached.performed _ _ rfl goesOn
  have advanced : usedUp =
      ((created workplace).wallet.advanceChain ("pub-" ++ path) .legacy .receive 0x7fffffff).2 := by
    simp only [usedUp, Wallet.perform, offline, Wallet.advance,
      schemeXpub_of_accountChain starts.isChain]
  refine ⟨reached, ?_, ?_⟩
  · rw [advanced]
    exact ⟨starts.inStep.isCommitted, starts.inStep.isMain, starts.inStep.noFailure,
      starts.inStep.isStored⟩
  · rw [advanced]
    refine nextOn_eq_ok.mpr ⟨starts.isChain, Allocator.nextFree_of_free ?_ ?_⟩
    · rw [Wallet.advanceChain, Allocator.state_advance]
      exact congrArg (max · (satAdd32 0x7fffffff 1)) starts.nextReceive
    · rw [Wallet.advanceChain, Allocator.state_advance]
      exact starts.reserved ▸ rfl

end Toy

namespace Wallet

/-- After the last index whose address can be derived was seen in use, a call for the next address
of a new wallet fails because it cannot derive the one after it. It leaves a label there, where the
account had none. -/
theorem underivable_index_is_labelled : ∃ (reason : DerivationError) (old new : Committed)
    (record : Record) (before after : Account),
    let reply :=
      Toy.usedUp.nextReceiveAndReserve Toy.workplace (Toy.created Toy.workplace).store 0 "rent"
    Reached Toy.keySource Toy.usedUp ∧ reply.result = .error (.derivation reason) ∧
      Stranded Toy.usedUp (Toy.created Toy.workplace).store 0 0x80000000 "rent" reply old new
        record ∧
      old.payload.account 0 = .ok before ∧ before.addressLabels.find? 0x80000000 = none ∧
      new.payload.account 0 = .ok after ∧ after.addressLabels.find? 0x80000000 = some "rent" := by
  obtain ⟨committed, account, path, starts⟩ := Toy.workplace_hosts.starts
  obtain ⟨reached, inStep, isNext⟩ := Toy.usedUp_has_chain starts
  obtain ⟨new, _, _, _, saved, _⟩ := Toy.workplace_hosts.label_in_step inStep starts.made 0x80000000
  obtain ⟨old, record, stranded⟩ := stranded_of_mutate saved
  obtain ⟨sameWallet, sameStore, sameResult⟩ :=
    nextReceiveAndReserve_of_next Toy.workplace _ "rent" isNext
  have stranded := stranded.congr sameWallet sameStore
  cases inStep.isCommitted.symm.trans stranded.wasCommitted
  obtain ⟨after, isAfter, isLabelled⟩ := Payload.label_of_labelAddress stranded.labelled
  obtain ⟨reason, underivable⟩ :=
    Toy.addressAt_of_large path .legacy .receive (by decide : ¬ (0x80000000 : UInt32) < 0x80000000)
  refine ⟨reason, committed, new, record, account, after, reached, ?_, stranded, starts.isAccount,
    starts.unlabelled ▸ rfl, isAfter, isLabelled⟩
  rw [sameResult]
  exact bind_eq_error.mpr (.inr ⟨new, saved, liftError_eq_error.mpr ⟨reason, underivable, rfl⟩⟩)

end Wallet

end Coffer
