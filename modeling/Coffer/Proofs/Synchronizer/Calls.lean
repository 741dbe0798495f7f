import Coffer.Proofs.Cipher
import Coffer.Proofs.Error
import Coffer.Proofs.Store
import Coffer.Synchronizer
import Coffer.Toy
/-!
# What calls of a synchronizer do

A call that succeeds takes over a payload: one that a text opens to, or one that was valid, was
wrapped, was accepted by the store and is only then committed.
-/

namespace Coffer

/-! ## Calls -/

/-- A save in place of the committed payload. -/
inductive Replacement where
  | trySave (candidate : Payload) (base : Checksum) (announce : Bool)
  | mutate (announce : Bool) (build : Payload → (password : String) → Except WalletError Payload)
  | rewrap (password : String)

inductive Call where
  | saveNew (payload : Payload) (password email : String)
  | load (guid sharedKey password : String)
  | loadText (text password : String)
  | replace (replacement : Replacement)

/-- Carries out a save. -/
def Replacement.perform (replacement : Replacement) (synchronizer : Synchronizer)
    (surroundings : Surroundings) (store : Store) : Attempt Committed :=
  match replacement with
  | .trySave candidate base announce =>
    synchronizer.trySave surroundings store candidate base announce
  | .mutate announce build => synchronizer.mutate surroundings store announce build
  | .rewrap password => synchronizer.rewrap surroundings store password

/-- Carries out a call. -/
def Call.perform (call : Call) (synchronizer : Synchronizer) (surroundings : Surroundings)
    (store : Store) : Attempt Committed :=
  match call with
  | .saveNew payload password email =>
    synchronizer.saveNew surroundings store payload password email
  | .load guid sharedKey password =>
    synchronizer.load store surroundings.services.cipher guid sharedKey password
  | .loadText text password =>
    synchronizer.loadText store surroundings.services.cipher text password
  | .replace replacement => replacement.perform synchronizer surroundings store

/-- Transparent collaborators on a device. -/
def Toy.surroundings : Surroundings where
  services
  device := some ⟨"android", "1"⟩
  lookahead := 5

/-! ## Plans -/

namespace Synchronizer

theorem current_eq_ok {synchronizer : Synchronizer} {committed : Committed}
    (isCurrent : synchronizer.current = .ok committed) :
    synchronizer.committed = some committed := by
  unfold current at isCurrent
  split at isCurrent
  · rename_i isCommitted
    cases isCurrent
    exact isCommitted
  · cases isCurrent

theorem mainPassword_eq_ok {synchronizer : Synchronizer} {password : String}
    (isMain : synchronizer.mainPassword = .ok password) :
    synchronizer.password = some password := by
  unfold mainPassword at isMain
  split at isMain
  · rename_i isHeld
    cases isMain
    exact isHeld
  · cases isMain

end Synchronizer

/-- What a save is to put in place of the committed payload. -/
structure Plan where
  previous : Committed
  candidate : Payload
  password : String
  announce : Bool

namespace Replacement

/-- How a save arises from what is committed and the main password: the payload, and the password to
wrap it under. -/
inductive Builds (previous : Committed) (password : String) : Replacement → Payload →
    String → Prop where
  | trySave (candidate : Payload) (announce : Bool) :
    Builds previous password (.trySave candidate previous.checksum announce) candidate password
  | mutate {announce : Bool} {build : Payload → String → Except WalletError Payload}
    {candidate : Payload} (built : build previous.payload password = .ok candidate) :
    Builds previous password (.mutate announce build) candidate password
  | rewrap (newPassword : String) :
    Builds previous password (.rewrap newPassword) previous.payload newPassword

/-- What a save decides before anything is checked or wrapped. -/
def plan (replacement : Replacement) (synchronizer : Synchronizer) : Except WalletError Plan :=
  match replacement with
  | .trySave candidate base announce => do
    let previous ← synchronizer.current
    if previous.checksum ≠ base then throw (.conflict (.staleCandidate base.hex))
    return ⟨previous, candidate, ← synchronizer.mainPassword, announce⟩
  | .mutate announce build => do
    let previous ← synchronizer.current
    let password ← synchronizer.mainPassword
    return ⟨previous, ← build previous.payload password, password, announce⟩
  | .rewrap password => do
    let previous ← synchronizer.current
    return ⟨previous, previous.payload, password, false⟩

def draft (replacement : Replacement) (synchronizer : Synchronizer) (surroundings : Surroundings) :
    Except WalletError Synchronizer.Draft := do
  let plan ← replacement.plan synchronizer
  synchronizer.draft surroundings plan.previous plan.candidate plan.password plan.announce

theorem perform_eq_submit (replacement : Replacement) (synchronizer : Synchronizer)
    (surroundings : Surroundings) (store : Store) :
      replacement.perform synchronizer surroundings store =
      synchronizer.submit store (replacement.draft synchronizer surroundings) := by
  cases replacement with
  | trySave candidate base announce =>
    rw [perform, Synchronizer.trySave, draft, plan]
    cases synchronizer.current with
    | error cause => rfl
    | ok previous =>
      simp only [bind_ok]
      split
      · rfl
      · cases synchronizer.mainPassword <;> rfl
  | mutate announce build =>
    rw [perform, Synchronizer.mutate, draft, plan]
    cases synchronizer.current with
    | error cause => rfl
    | ok previous =>
      cases synchronizer.mainPassword with
      | error cause => rfl
      | ok password =>
        simp only [bind_ok]
        cases build previous.payload password <;> rfl
  | rewrap password =>
    rw [perform, Synchronizer.rewrap, draft, plan]
    cases synchronizer.current <;> rfl

/-- A plan is made from the committed payload and, but for a new password, from the main
password. -/
theorem plan_eq_ok {replacement : Replacement} {synchronizer : Synchronizer} {plan : Plan}
    (planned : replacement.plan synchronizer = .ok plan) :
    synchronizer.committed = some plan.previous ∧
      ∀ password, synchronizer.password = some password →
      replacement.Builds plan.previous password plan.candidate plan.password := by
  cases replacement with
  | trySave candidate base announce =>
    obtain ⟨previous, isCurrent, planned⟩ := bind_eq_ok.mp planned
    split at planned
    · cases planned
    · rename_i sameBase
      obtain ⟨password, isMain, planned⟩ := bind_eq_ok.mp planned
      cases planned
      refine ⟨Synchronizer.current_eq_ok isCurrent, fun other isOther => ?_⟩
      have same := (Synchronizer.mainPassword_eq_ok isMain).symm.trans isOther
      cases same
      rw [← Decidable.not_not.mp sameBase]
      exact .trySave candidate announce
  | mutate announce build =>
    obtain ⟨previous, isCurrent, planned⟩ := bind_eq_ok.mp planned
    obtain ⟨password, isMain, planned⟩ := bind_eq_ok.mp planned
    obtain ⟨candidate, built, planned⟩ := bind_eq_ok.mp planned
    cases planned
    refine ⟨Synchronizer.current_eq_ok isCurrent, fun other isOther => ?_⟩
    have same := (Synchronizer.mainPassword_eq_ok isMain).symm.trans isOther
    cases same
    exact .mutate built
  | rewrap password =>
    obtain ⟨previous, isCurrent, planned⟩ := bind_eq_ok.mp planned
    cases planned
    exact ⟨Synchronizer.current_eq_ok isCurrent, fun _ _ => .rewrap password⟩

end Replacement

/-! ## Drafts -/

namespace Synchronizer

theorem checkCandidate_eq_ok {surroundings : Surroundings} {candidate : Payload}
    {previous : Option Payload} {device : Device}
    (checked : checkCandidate surroundings candidate previous = .ok device) :
    candidate.validate = .ok () ∧ ∀ earlier, previous = some earlier →
      candidate.checkSucceeds earlier = .ok () := by
  unfold checkCandidate at checked
  split at checked
  · cases checked
  · obtain ⟨_, valid, checked⟩ := bind_eq_ok.mp checked
    refine ⟨liftError_eq_ok.mp valid, fun earlier isEarlier => ?_⟩
    subst isEarlier
    obtain ⟨_, succeeds, _⟩ := bind_eq_ok.mp checked
    exact liftError_eq_ok.mp succeeds

theorem draft_eq_ok {synchronizer : Synchronizer} {surroundings : Surroundings}
    {previous : Committed} {candidate : Payload} {password : String} {announce : Bool}
    {draft : Draft} (drafted : synchronizer.draft surroundings previous candidate password
      announce = .ok draft) :
    candidate.validate = .ok () ∧ candidate.checkSucceeds previous.payload = .ok () ∧
      draft.payload = candidate ∧ draft.password = password ∧ draft.request.guid = candidate.guid ∧
      draft.request.sharedKey = candidate.sharedKey ∧
      draft.request.oldChecksum = previous.checksum ∧
      (announce = true → synchronizer.announcedAddresses surroundings candidate =
        .ok draft.request.announced) ∧
      wrap surroundings.services.cipher surroundings.services.seed candidate password =
        .ok ⟨draft.request.text, draft.request.newChecksum⟩ := by
  obtain ⟨device, checked, drafted⟩ := bind_eq_ok.mp drafted
  obtain ⟨wrapped, isWrapped, drafted⟩ := bind_eq_ok.mp drafted
  have ⟨valid, succeeds⟩ := checkCandidate_eq_ok checked
  -- The list of addresses is the only thing that depends on `announce`.
  cases announce with
  | true =>
    obtain ⟨announced, isAnnounced, drafted⟩ := bind_eq_ok.mp drafted
    cases drafted
    exact ⟨valid, succeeds _ rfl, rfl, rfl, rfl, rfl, rfl, fun _ => isAnnounced, isWrapped⟩
  | false =>
    obtain ⟨announced, _, drafted⟩ := bind_eq_ok.mp drafted
    cases drafted
    exact ⟨valid, succeeds _ rfl, rfl, rfl, rfl, rfl, rfl,
      (fun isFalse => nomatch isFalse), isWrapped⟩

theorem draftFirst_eq_ok {surroundings : Surroundings} {payload : Payload} {password email : String}
    {request : InsertRequest}
    (drafted : draftFirst surroundings payload password email = .ok request) :
    payload.validate = .ok () ∧ request.guid = payload.guid ∧
      request.sharedKey = payload.sharedKey ∧
      wrap surroundings.services.cipher surroundings.services.seed payload password =
        .ok ⟨request.text, request.checksum⟩ := by
  obtain ⟨device, checked, drafted⟩ := bind_eq_ok.mp drafted
  obtain ⟨wrapped, isWrapped, drafted⟩ := bind_eq_ok.mp drafted
  have ⟨valid, _⟩ := checkCandidate_eq_ok checked
  cases drafted
  exact ⟨valid, rfl, rfl, isWrapped⟩

end Synchronizer

/-! ## Successful calls -/

namespace Synchronizer

variable {synchronizer : Synchronizer} {surroundings : Surroundings} {store : Store}
  {committed : Committed}

/-- A stored text is read as what it opens to, if that is the wallet that was asked for. -/
theorem readStored_eq_ok {cipher : Cipher} {guid sharedKey text password : String}
    (read : readStored cipher guid sharedKey text password = .ok committed) :
    unwrap cipher text password = .ok (committed.payload, committed.checksum) ∧
      committed.payload.guid = guid ∧ committed.payload.sharedKey = sharedKey := by
  obtain ⟨⟨payload, checksum⟩, opened, read⟩ := bind_eq_ok.mp read
  by_cases foreign : payload.guid ≠ guid ∨ payload.sharedKey ≠ sharedKey
  · simp only [if_pos foreign] at read
    cases read
  · simp only [if_neg foreign] at read
    cases read
    exact ⟨opened, Decidable.not_not.mp (not_or.mp foreign).1,
      Decidable.not_not.mp (not_or.mp foreign).2⟩

theorem load_eq_ok {cipher : Cipher} {guid sharedKey password : String}
    (loaded : (synchronizer.load store cipher guid sharedKey password).result = .ok committed) :
    synchronizer.load store cipher guid sharedKey password =
        synchronizer.accept store committed password ∧
      ∃ record, store.record? guid = some record ∧
        unwrap cipher record.text password = .ok (committed.payload, committed.checksum) := by
  unfold load at loaded ⊢
  cases fetched : store.fetch guid sharedKey with
  | mk answer next =>
    simp only [fetched] at loaded ⊢
    cases answer with
    | error refusal => cases loaded
    | ok text =>
      obtain ⟨rfl, _, record, isStored, _, rfl⟩ := Store.fetch_eq_ok fetched
      cases read : readStored cipher guid sharedKey record.text password with
      | error cause =>
        simp only [read] at loaded
        cases loaded
      | ok found =>
        simp only [read] at loaded ⊢
        cases loaded
        exact ⟨rfl, record, isStored, (readStored_eq_ok read).1⟩

theorem loadText_eq_ok {cipher : Cipher} {text password : String}
    (loaded : (synchronizer.loadText store cipher text password).result = .ok committed) :
    synchronizer.loadText store cipher text password =
        synchronizer.accept store committed password ∧
      unwrap cipher text password = .ok (committed.payload, committed.checksum) := by
  unfold loadText at loaded ⊢
  cases opened : unwrap cipher text password with
  | error cause =>
    simp only [opened] at loaded
    cases loaded
  | ok held =>
    simp only [opened] at loaded ⊢
    cases loaded
    exact ⟨rfl, rfl⟩

/-- What a successful save leaves: a valid payload, wrapped under a password, stands in the store
and is committed with its checksum and that password. -/
structure Saved (synchronizer : Synchronizer) (surroundings : Surroundings) (store : Store)
    (committed : Committed) (password : String) (record : Record) (attempt : Attempt Committed) :
    Prop where
  attempt_eq : attempt = synchronizer.accept (store.put committed.payload.guid record)
    committed password
  noFailure : store.failure = none
  valid : committed.payload.validate = .ok ()
  sharedKey : record.sharedKey = committed.payload.sharedKey
  checksum : record.checksum = committed.checksum
  wrapped : wrap surroundings.services.cipher surroundings.services.seed
    committed.payload password = .ok ⟨record.text, record.checksum⟩

theorem saveNew_eq_ok {payload : Payload} {password email : String}
    (saved : (synchronizer.saveNew surroundings store payload password email).result =
      .ok committed) :
    committed.payload = payload ∧ store.record? payload.guid = none ∧ ∃ record,
      synchronizer.Saved surroundings store committed password record
        (synchronizer.saveNew surroundings store payload password email) := by
  unfold saveNew at saved ⊢
  cases drafted : draftFirst surroundings payload password email with
  | error cause =>
    simp only [drafted] at saved
    cases saved
  | ok request =>
    cases inserted : store.insert request with
    | mk answer next =>
      simp only [drafted, inserted] at saved ⊢
      cases answer with
      | error refusal => cases saved
      | ok _ =>
        obtain ⟨noFailure, isNew, rfl⟩ := Store.insert_eq_ok inserted
        obtain ⟨valid, sameGuid, sameKey, isWrapped⟩ := draftFirst_eq_ok drafted
        rw [sameGuid] at isNew ⊢
        cases saved
        exact ⟨rfl, isNew, request.record, rfl, noFailure, valid, sameKey, rfl, isWrapped⟩

/-- A replacement takes the place of a record with the committed checksum, and announces addresses
if it is to. -/
theorem replace_eq_ok {replacement : Replacement}
    (saved : (replacement.perform synchronizer surroundings store).result = .ok committed) :
    ∃ plan old record, replacement.plan synchronizer = .ok plan ∧
      committed.payload = plan.candidate ∧
      plan.candidate.checkSucceeds plan.previous.payload = .ok () ∧
      store.record? committed.payload.guid = some old ∧ old.checksum = plan.previous.checksum ∧
      record.sharedKey = old.sharedKey ∧
      (plan.announce = true → synchronizer.announcedAddresses surroundings plan.candidate =
        .ok record.announced) ∧
      synchronizer.Saved surroundings store committed plan.password record
        (replacement.perform synchronizer surroundings store) := by
  rw [Replacement.perform_eq_submit] at saved ⊢
  cases drafted : replacement.draft synchronizer surroundings with
  | error cause =>
    simp only [drafted, submit] at saved
    cases saved
  | ok draft =>
    cases updated : store.update draft.request with
    | mk answer next =>
      simp only [drafted, submit, updated] at saved ⊢
      cases answer with
      | error refusal => cases saved
      | ok _ =>
        obtain ⟨noFailure, old, isStored, oldKey, oldChecksum, rfl⟩ := Store.update_eq_ok updated
        obtain ⟨candidate, password, request⟩ := draft
        obtain ⟨plan, planned, drafted⟩ := bind_eq_ok.mp drafted
        obtain ⟨valid, succeeds, rfl, rfl, sameGuid, sameKey, sameChecksum, announced, isWrapped⟩ :=
          draft_eq_ok drafted
        rw [sameGuid] at isStored ⊢
        cases saved
        exact ⟨plan, old, request.record old, planned, rfl, succeeds, isStored,
          oldChecksum.trans sameChecksum, rfl, announced, rfl, noFailure, valid,
          oldKey.trans sameKey, rfl, isWrapped⟩

end Synchronizer

end Coffer
