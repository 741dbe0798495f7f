import Coffer.Payload.Imports
import Coffer.Proofs.Synchronizer.Fleet
/-!
# Saves that get through

A writer whose committed checksum is that of the record can replace it, and whoever knows shared key
and password reads what was saved. So there are runs of several devices that succeed at every step.
-/

namespace Coffer

theorem Payload.checkSucceeds_eq_ok {payload previous : Payload}
    (succeeds : payload.checkSucceeds previous = .ok ()) :
    previous.version.number ≤ payload.version.number ∧ payload.guid = previous.guid := by
  unfold checkSucceeds at succeeds
  split at succeeds
  · cases succeeds
  · rename_i notLess
    split at succeeds
    · cases succeeds
    · rename_i sameGuid
      exact ⟨UInt8.not_lt.mp notLess, Decidable.not_not.mp sameGuid⟩

theorem Payload.checkSucceeds_self (payload : Payload) :
    payload.checkSucceeds payload = .ok () := by
  simp [checkSucceeds, UInt8.lt_irrefl]

namespace Synchronizer

variable {synchronizer : Synchronizer} {surroundings : Surroundings} {store : Store}
  {committed : Committed} {record : Record} {device : Device}

theorem store_accept (reader : Synchronizer) (store : Store) (committed : Committed)
    (password : String) : (reader.accept store committed password).store = store := rfl

theorem load_of_record (synchronizer : Synchronizer) {cipher : Cipher} {password : String}
    (noFailure : store.failure = none) (notLocked : committed.payload.guid ∉ store.locked)
    (isStored : store.record? committed.payload.guid = some record)
    (sameKey : record.sharedKey = committed.payload.sharedKey)
    (opens : unwrap cipher record.text password = .ok (committed.payload, committed.checksum)) :
    synchronizer.load store cipher committed.payload.guid committed.payload.sharedKey password =
      synchronizer.accept store committed password := by
  have fetched := Store.fetch_of_record noFailure notLocked isStored
  have read : readStored cipher committed.payload.guid committed.payload.sharedKey
      record.text password = .ok committed := by
    simp [readStored, opens]
  rw [sameKey] at fetched
  simp only [load, fetched, read]

/-- Whoever has committed what the store has can put a valid payload that succeeds it in its
place. -/
theorem submit_draft_succeeds {candidate : Payload} {announce : Bool} (password : String)
    (encrypts : surroundings.services.cipher.Encrypts)
    (hasDevice : surroundings.device = some device) (valid : candidate.validate = .ok ())
    (succeeds : candidate.checkSucceeds committed.payload = .ok ())
    (noFailure : store.failure = none) (isStored : store.record? candidate.guid = some record)
    (sameKey : record.sharedKey = candidate.sharedKey)
    (sameChecksum : record.checksum = committed.checksum)
    (announces : announce = true →
      ∃ announced, synchronizer.announcedAddresses surroundings candidate = .ok announced) :
    ∃ next, (synchronizer.submit store
      (synchronizer.draft surroundings committed candidate password announce)).result =
        .ok next := by
  obtain ⟨bytes, encrypted⟩ := encrypts surroundings.services.seed candidate.render password _
    (Payload.getD_declaredIterations_pos (Payload.positive_of_valid valid))
  have checked : checkCandidate surroundings candidate (some committed.payload) = .ok device := by
    simp [checkCandidate, hasDevice, valid, succeeds, liftError]
  obtain ⟨draft, drafted⟩ : ∃ draft, synchronizer.draft surroundings committed candidate
      password announce = .ok draft := by
    rw [draft, checked, bind_ok, wrap_of_encrypt encrypted, bind_ok]
    cases announce with
    | false => exact ⟨_, rfl⟩
    | true =>
      obtain ⟨announced, isAnnounced⟩ := announces rfl
      simp only [if_true, isAnnounced, bind_ok]
      exact ⟨_, rfl⟩
  obtain ⟨_, _, _, _, sameGuid, sameRequestKey, old, _⟩ := draft_eq_ok drafted
  have updated : store.update draft.request =
      (.ok (), store.put draft.request.guid (draft.request.record record)) := by
    apply Store.update_of_record noFailure
    · rw [sameGuid]
      exact isStored
    · exact sameKey.trans sameRequestKey.symm
    · exact sameChecksum.trans old.symm
  rw [drafted, submit, updated]
  exact ⟨_, rfl⟩

theorem saveNew_succeeds {payload : Payload} (password email : String)
    (encrypts : surroundings.services.cipher.Encrypts)
    (hasDevice : surroundings.device = some device) (valid : payload.validate = .ok ())
    (noFailure : store.failure = none) (isNew : store.record? payload.guid = none) :
    ∃ stored, (synchronizer.saveNew surroundings store payload password email).result = .ok stored ∧
      stored.payload = payload := by
  obtain ⟨bytes, encrypted⟩ := encrypts surroundings.services.seed payload.render password _
    (Payload.getD_declaredIterations_pos (Payload.positive_of_valid valid))
  have checked : checkCandidate surroundings payload none = .ok device := by
    simp [checkCandidate, hasDevice, valid, liftError]
  rw [saveNew, draftFirst, checked, bind_ok, wrap_of_encrypt encrypted, bind_ok]
  simp only [pure_eq_ok, Store.insert, Store.answer, noFailure, isNew]
  exact ⟨_, rfl, rfl⟩

theorem rewrap_succeeds (password : String) (encrypts : surroundings.services.cipher.Encrypts)
    (hasDevice : surroundings.device = some device)
    (isCommitted : synchronizer.committed = some committed)
    (valid : committed.payload.validate = .ok ()) (noFailure : store.failure = none)
    (isStored : store.record? committed.payload.guid = some record)
    (sameKey : record.sharedKey = committed.payload.sharedKey)
    (sameChecksum : record.checksum = committed.checksum) :
    ∃ next, (synchronizer.rewrap surroundings store password).result = .ok next := by
  have current : synchronizer.current = .ok committed := by rw [current, isCommitted]
  rw [rewrap, current, bind_ok]
  exact submit_draft_succeeds password encrypts hasDevice valid committed.payload.checkSucceeds_self
    noFailure isStored sameKey sameChecksum fun isFalse => by cases isFalse

/-- Whoever has committed what the store has can put a valid payload that was built from it in its
place. -/
theorem mutate_succeeds {build : Payload → String → Except WalletError Payload}
    {candidate : Payload} {password : String} {announce : Bool}
    (encrypts : surroundings.services.cipher.Encrypts)
    (hasDevice : surroundings.device = some device)
    (isCommitted : synchronizer.committed = some committed)
    (isMain : synchronizer.password = some password)
    (built : build committed.payload password = .ok candidate) (valid : candidate.validate = .ok ())
    (succeeds : candidate.checkSucceeds committed.payload = .ok ())
    (noFailure : store.failure = none) (isStored : store.record? candidate.guid = some record)
    (sameKey : record.sharedKey = candidate.sharedKey)
    (sameChecksum : record.checksum = committed.checksum)
    (announces : announce = true →
      ∃ announced, synchronizer.announcedAddresses surroundings candidate = .ok announced) :
    ∃ next, (synchronizer.mutate surroundings store announce build).result = .ok next := by
  have current : synchronizer.current = .ok committed := by rw [current, isCommitted]
  have mainPassword : synchronizer.mainPassword = .ok password := by rw [mainPassword, isMain]
  rw [mutate, current, bind_ok, mainPassword, bind_ok, built, bind_ok]
  exact submit_draft_succeeds password encrypts hasDevice valid succeeds noFailure isStored sameKey
    sameChecksum announces

/-- What is committed is what the store has, and nothing keeps it from being replaced. -/
structure InStep (synchronizer : Synchronizer) (store : Store) (committed : Committed) : Prop where
  isCommitted : synchronizer.committed = some committed
  isMain : ∃ password, synchronizer.password = some password
  noFailure : store.failure = none
  isStored : ∃ record, store.record? committed.payload.guid = some record ∧
    record.sharedKey = committed.payload.sharedKey ∧ record.checksum = committed.checksum

namespace Saved

variable {password : String} {attempt : Attempt Committed}
  (saved : synchronizer.Saved surroundings store committed password record attempt)

include saved

theorem noFailure_after : attempt.store.failure = none := by
  rw [saved.attempt_eq]
  exact saved.noFailure

theorem locked_after : attempt.store.locked = store.locked := by
  rw [saved.attempt_eq]
  rfl

theorem record?_cases {guid : String} {found : Record}
    (isStored : attempt.store.record? guid = some found) :
    found = record ∨ store.record? guid = some found := by
  rw [saved.attempt_eq] at isStored
  have isPut := (Store.record?_put ..).symm.trans isStored
  split at isPut
  · exact .inl (Option.some.inj isPut).symm
  · exact .inr isPut

theorem inStep_accept (reader : Synchronizer) :
    (reader.accept attempt.store committed password).synchronizer.InStep attempt.store committed :=
  ⟨rfl, ⟨password, rfl⟩, saved.noFailure_after, record, saved.record?, saved.sharedKey,
    saved.checksum⟩

theorem inStep : attempt.synchronizer.InStep attempt.store committed := by
  have inStep := saved.inStep_accept synchronizer
  rw [saved.attempt_eq] at inStep ⊢
  exact inStep

theorem load (inverts : surroundings.services.cipher.Inverts) (reader : Synchronizer)
    (notLocked : committed.payload.guid ∉ attempt.store.locked) :
    reader.load attempt.store surroundings.services.cipher committed.payload.guid
      committed.payload.sharedKey password = reader.accept attempt.store committed password :=
  reader.load_of_record saved.noFailure_after notLocked saved.record? saved.sharedKey
    (saved.opens inverts)

end Saved

namespace InStep

variable {build : Payload → String → Except WalletError Payload} {candidate : Payload}
  {announce : Bool} (inStep : synchronizer.InStep store committed)
  (encrypts : surroundings.services.cipher.Encrypts)
  (hasDevice : surroundings.device = some device)

include inStep encrypts hasDevice

/-- A valid payload that was built from the committed one can be put in its place, under the same
password. -/
theorem mutate_saves {password : String} (isMain : synchronizer.password = some password)
    (built : build committed.payload password = .ok candidate)
    (valid : candidate.validate = .ok ())
    (succeeds : candidate.checkSucceeds committed.payload = .ok ())
    (sameKey : candidate.sharedKey = committed.payload.sharedKey)
    (announces : announce = true →
      ∃ announced, synchronizer.announcedAddresses surroundings candidate = .ok announced) :
    ∃ next new, (synchronizer.mutate surroundings store announce build).result = .ok next ∧
      next.payload = candidate ∧ synchronizer.Saved surroundings store next password new
        (synchronizer.mutate surroundings store announce build) := by
  obtain ⟨record, isStored, recordKey, recordChecksum⟩ := inStep.isStored
  have sameGuid := (Payload.checkSucceeds_eq_ok succeeds).2
  obtain ⟨next, saved⟩ := mutate_succeeds encrypts hasDevice inStep.isCommitted isMain built
    valid succeeds inStep.noFailure (sameGuid ▸ isStored) (recordKey.trans sameKey.symm)
    recordChecksum announces
  have performed : ((Replacement.mutate announce build).perform synchronizer surroundings
    store).result = .ok next := saved
  obtain ⟨plan, _, new, planned, samePayload, _, _, _, _, _, left⟩ := replace_eq_ok performed
  obtain ⟨isPrevious, builds⟩ := Replacement.plan_eq_ok planned
  have samePrevious := Option.some.inj (inStep.isCommitted.symm.trans isPrevious)
  have builds := builds password isMain
  generalize plan.candidate = planCandidate at builds samePayload
  generalize plan.password = planPassword at builds left
  cases builds with
  | mutate planBuilt =>
    have sameCandidate : candidate = planCandidate :=
      Except.ok.inj ((samePrevious ▸ built).symm.trans planBuilt)
    exact ⟨next, new, saved, samePayload.trans sameCandidate.symm, left⟩

theorem mutate (built : ∀ password, synchronizer.password = some password →
      build committed.payload password = .ok candidate)
    (valid : candidate.validate = .ok ())
    (succeeds : candidate.checkSucceeds committed.payload = .ok ())
    (sameKey : candidate.sharedKey = committed.payload.sharedKey)
    (announces : announce = true →
      ∃ announced, synchronizer.announcedAddresses surroundings candidate = .ok announced) :
    ∃ next, (synchronizer.mutate surroundings store announce build).result = .ok next ∧
      next.payload = candidate ∧
      (synchronizer.mutate surroundings store announce build).synchronizer.InStep
        (synchronizer.mutate surroundings store announce build).store next := by
  obtain ⟨password, isMain⟩ := inStep.isMain
  obtain ⟨next, _, succeeded, samePayload, saved⟩ :=
    inStep.mutate_saves encrypts hasDevice isMain (built password isMain) valid succeeds
      sameKey announces
  exact ⟨next, succeeded, samePayload, saved.inStep⟩

end InStep

end Synchronizer

def Payload.annotated : Payload :=
  { early with notes := SortedMap.empty.insert "transaction" "rent" }

namespace Fleet

def devices : Bool → Surroundings := fun _ => Toy.surroundings

def addNote (payload : Payload) (_ : String) : Except WalletError Payload :=
  payload.setNote "transaction" "rent"

def annotate : Call := .replace (.mutate false addNote)

def stored : List (Event Bool) := [.call false [] (.saveNew .early "password" "mail")]

def shared : List (Event Bool) := .call true [] (.load "guid" "key" "password") :: stored

def noted : List (Event Bool) := .call true [] annotate :: shared

def reread : List (Event Bool) := .call false [] (.load "guid" "key" "password") :: noted

/-- Every step of this history succeeds. -/
structure Annotates (first second : Committed) (old new : Record) : Prop where
  isFirst : first.payload = .early
  isSecond : second.payload = .annotated
  stores : Synchronizer.initial.Saved Toy.surroundings .empty first "password" old
    (start.attempt devices false [] (.saveNew .early "password" "mail"))
  loads : (run devices stored).attempt devices true [] (.load "guid" "key" "password") =
    Synchronizer.initial.accept (run devices stored).store first "password"
  saves : ((run devices shared).synchronizer true).Saved Toy.surroundings (run devices shared).store
    second "password" new ((run devices shared).attempt devices true [] annotate)
  noneLocked : (run devices noted).store.locked = []
  rereads : (run devices noted).attempt devices false [] (.load "guid" "key" "password") =
    ((run devices noted).synchronizer false).accept (run devices noted).store second "password"

theorem attempt_load {fleet : Fleet Bool} {writer : Synchronizer} {store : Store}
    {committed : Committed} {record : Record} {attempt : Attempt Committed} (who : Bool)
    (saved : writer.Saved Toy.surroundings store committed "password" record attempt)
    (sameStore : fleet.store = attempt.store) (sameGuid : committed.payload.guid = "guid")
    (sameKey : committed.payload.sharedKey = "key") (noneLocked : store.locked = []) :
    fleet.attempt devices who [] (.load "guid" "key" "password") =
      (fleet.synchronizer who).accept fleet.store committed "password" := by
  have notLocked : committed.payload.guid ∉ attempt.store.locked := by
    rw [saved.locked_after, noneLocked]
    exact List.not_mem_nil
  have loaded := saved.load Toy.cipher_inverts (fleet.synchronizer who) notLocked
  rw [sameGuid, sameKey, ← sameStore] at loaded
  exact loaded

theorem annotate_saves {fleet : Fleet Bool} {first : Committed} (who : Bool)
    (inStep : (fleet.synchronizer who).InStep fleet.store first)
    (isMain : (fleet.synchronizer who).password = some "password")
    (isFirst : first.payload = .early) :
    ∃ second new, second.payload = .annotated ∧ (fleet.synchronizer who).Saved Toy.surroundings
      fleet.store second "password" new (fleet.attempt devices who [] annotate) := by
  have built : addNote first.payload "password" = .ok .annotated := isFirst ▸ rfl
  have succeeds : Payload.annotated.checkSucceeds first.payload = .ok () := isFirst ▸ rfl
  have sameKey : Payload.annotated.sharedKey = first.payload.sharedKey := isFirst ▸ rfl
  obtain ⟨device, hasDevice⟩ : ∃ device, Toy.surroundings.device = some device := ⟨_, rfl⟩
  have valid : Payload.annotated.validate = .ok () := rfl
  obtain ⟨second, new, _, isSecond, saves⟩ := inStep.mutate_saves Toy.cipher_encrypts hasDevice
    isMain built valid succeeds sameKey fun isTrue => absurd isTrue Bool.false_ne_true
  exact ⟨second, new, isSecond, saves⟩

theorem exists_annotates : ∃ first second old new, Annotates first second old new := by
  obtain ⟨first, succeeded, isFirst⟩ : ∃ first,
      (start.attempt devices false [] (.saveNew .early "password" "mail")).result = .ok first ∧
        first.payload = .early :=
    Synchronizer.saveNew_succeeds "password" "mail" Toy.cipher_encrypts rfl rfl rfl rfl
  obtain ⟨_, _, old, stores⟩ : _ ∧ _ ∧
    ∃ old, Synchronizer.initial.Saved Toy.surroundings .empty first "password" old
    (start.attempt devices false [] (.saveNew .early "password" "mail")) :=
      Synchronizer.saveNew_eq_ok succeeded
  have loads : (run devices stored).attempt devices true [] (.load "guid" "key" "password") =
      Synchronizer.initial.accept (run devices stored).store first "password" :=
    attempt_load true stores rfl (congrArg Payload.guid isFirst)
      (congrArg Payload.sharedKey isFirst) rfl
  have inStep : ((run devices shared).synchronizer true).InStep
      (run devices shared).store first := by
    rw [shared, run, synchronizer_after_call, store_after_call, loads, stored, run,
      store_after_call]
    exact stores.inStep_accept .initial
  have isMain : ((run devices shared).synchronizer true).password = some "password" := by
    rw [shared, run, synchronizer_after_call, loads]
    rfl
  obtain ⟨second, new, isSecond, saves⟩ := annotate_saves true inStep isMain isFirst
  have noneLocked : (run devices shared).store.locked = [] := by
    rw [shared, run, store_after_call, loads]
    exact stores.locked_after
  have stillNone : (run devices noted).store.locked = [] := by
    rw [noted, run, store_after_call, saves.locked_after, noneLocked]
  have sameStore : (run devices noted).store =
      ((run devices shared).attempt devices true [] annotate).store := by
    rw [noted, run, store_after_call]
  have rereads : (run devices noted).attempt devices false [] (.load "guid" "key" "password") =
      ((run devices noted).synchronizer false).accept (run devices noted).store second "password" :=
    attempt_load false saves sameStore (congrArg Payload.guid isSecond)
      (congrArg Payload.sharedKey isSecond) noneLocked
  exact ⟨first, second, old, new, isFirst, isSecond, stores, loads, saves, stillNone, rereads⟩

end Fleet

end Coffer
