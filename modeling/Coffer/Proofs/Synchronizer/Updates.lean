import Coffer.Proofs.Synchronizer.Coherence
/-!
# No update is lost

A record is replaced only by a writer that has its checksum committed. As long as no two texts of a
history share a checksum, what that writer has committed is what the replaced text opens to, so
nothing that others wrote in between can disappear unseen.
-/

namespace Coffer

section

variable {call : Call} {synchronizer : Synchronizer} {surroundings : Surroundings} {store : Store}
  {attempt : Attempt Committed}

theorem Synchronizer.Saved.record?_of_ne {committed : Committed} {password guid : String}
    {record : Record}
    (saved : synchronizer.Saved surroundings store committed password record attempt)
    (other : guid ≠ committed.payload.guid) : attempt.store.record? guid = store.record? guid := by
  rw [saved.attempt_eq]
  exact (Store.record?_put ..).trans (if_neg other)

/-- A call changes no record, or makes one for a new wallet, or replaces that of the committed
wallet, which has the committed checksum. -/
theorem Outcome.record? (outcome : Outcome call synchronizer surroundings store attempt)
    (guid : String) : attempt.store.record? guid = store.record? guid ∨
      (store.record? guid = none ∧
        ∃ payload password email, call = .saveNew payload password email ∧
        payload.guid = guid) ∨
      ∃ replacement previous record, call = .replace replacement ∧
        synchronizer.committed = some previous ∧
        previous.payload.guid = guid ∧ store.record? guid = some record ∧
          record.checksum = previous.checksum := by
  cases outcome with
  | failed records =>
    refine .inl ?_
    rw [Store.record?, records]
    rfl
  | loaded opens source => exact .inl rfl
  | @inserted committed password email record _ isCall isNew saved =>
    by_cases own : guid = committed.payload.guid
    · exact .inr (.inl ⟨own ▸ isNew, committed.payload, password, email, isCall, own.symm⟩)
    · exact .inl (saved.record?_of_ne own)
  | @updated replacement plan committed old record _ isCall planned samePayload succeeds isStored
      sameChecksum sameKey saved =>
    by_cases own : guid = committed.payload.guid
    · have sameGuid := (Payload.checkSucceeds_eq_ok succeeds).2
      rw [← samePayload, ← own] at sameGuid
      exact .inr (.inr ⟨replacement, plan.previous, old, isCall, (Replacement.plan_eq_ok planned).1,
        sameGuid.symm, own ▸ isStored, sameChecksum⟩)
    · exact .inl (saved.record?_of_ne own)

end

namespace Fleet

variable {ι : Type} [DecidableEq ι] (sites : ι → Surroundings)

theorem record?_after (fleet : Fleet ι) {event : Event ι} {who : ι}
    (isWriter : event.writer? = some who) (guid : String) :
    (fleet.after sites event).store.record? guid = fleet.store.record? guid ∨
      (fleet.store.record? guid = none ∧
        ∃ seed payload password email, event = .call who seed (.saveNew payload password email) ∧
          payload.guid = guid) ∨
      ∃ seed replacement previous record, event = .call who seed (.replace replacement) ∧
        (fleet.synchronizer who).committed = some previous ∧ previous.payload.guid = guid ∧
        fleet.store.record? guid = some record ∧ record.checksum = previous.checksum := by
  cases event with
  | call caller seed call =>
    cases isWriter
    rcases (call.outcome (fleet.synchronizer who) ((sites who).reseeded seed) fleet.store).record?
        guid with
      unchanged | ⟨isNew, payload, password, email, rfl, sameGuid⟩ |
        ⟨replacement, previous, record, rfl, isCommitted, sameGuid, isStored, sameChecksum⟩
    · exact .inl unchanged
    · exact .inr (.inl ⟨isNew, seed, payload, password, email, rfl, sameGuid⟩)
    · exact .inr (.inr ⟨seed, replacement, previous, record, rfl, isCommitted, sameGuid, isStored,
        sameChecksum⟩)
  | clear caller => exact .inl rfl
  | failNext cause => cases isWriter
  | setLocked guid isLocked => cases isWriter
  | overwrite guid text => cases isWriter

theorem holds_stored (inverts : ∀ who, (sites who).services.cipher.Inverts)
    (history : List (Event ι)) (distinct : ∀ left right, Seen sites history left →
      Seen sites history right → Checksum.ofText left = Checksum.ofText right → left = right)
    {who : ι} {guid : String} {record : Record} {committed : Committed}
    (isCommitted : ((run sites history).synchronizer who).committed = some committed)
    (isStored : (run sites history).store.record? guid = some record)
    (sameChecksum : record.checksum = committed.checksum) :
    ∃ password, ((run sites history).synchronizer who).Holds (sites who).services.cipher
      committed password record.text := by
  rcases coherent_run sites inverts history who with nothing | ⟨held, password, text, seen, holds⟩
  · rw [nothing.1] at isCommitted
    cases isCommitted
  · have same := holds.isCommitted
    rw [isCommitted] at same
    cases same
    -- One checksum is that of the text which was opened, the other that of the text which is
    -- stored.
    have own := (unwrap_eq_ok holds.opens).2
    have stored := honest_run sites history guid record isStored
    have sameText :=
      distinct text record.text seen (.stored isStored)
      (own.symm.trans (sameChecksum.symm.trans stored))
    exact ⟨password, sameText ▸ holds⟩

/-- What a replacement replaces is what the writer had committed, under the password that it had;
the identity in the store stays. No act of a synchronizer changes the record of another wallet than
the one it has committed or makes anew, and none replaces a record whose checksum it has not
committed. -/
theorem no_update_is_lost (inverts : ∀ who, (sites who).services.cipher.Inverts)
    (history : List (Event ι))
    (distinct : ∀ left right, Seen sites history left → Seen sites history right →
      Checksum.ofText left = Checksum.ofText right → left = right) (who : ι) :
    let fleet := run sites history
    let writer := fleet.synchronizer who
    (∀ seed replacement committed,
      (fleet.attempt sites who seed (.replace replacement)).result = .ok committed →
      ∃ previous password newPassword record newRecord,
        writer.Holds (sites who).services.cipher previous password record.text ∧
        replacement.Builds previous password committed.payload newPassword ∧
        fleet.store.record? previous.payload.guid = some record ∧
        (fleet.after sites (.call who seed (.replace replacement))).store.record?
          previous.payload.guid = some newRecord ∧
        newRecord.checksum = committed.checksum ∧ newRecord.sharedKey = record.sharedKey) ∧
    (∀ event, event.writer? = some who → ∀ guid,
      (fleet.after sites event).store.record? guid = fleet.store.record? guid ∨
        (fleet.store.record? guid = none ∧
          ∃ seed payload password email, event = .call who seed (.saveNew payload password email) ∧
            payload.guid = guid) ∨
        ∃ seed replacement previous record, event = .call who seed (.replace replacement) ∧
          writer.committed = some previous ∧ previous.payload.guid = guid ∧
          fleet.store.record? guid = some record ∧ record.checksum = previous.checksum) ∧
    (∀ event, event.writer? = some who → ∀ guid record, fleet.store.record? guid = some record →
      (∀ previous, writer.committed = some previous → previous.checksum ≠ record.checksum) →
      (fleet.after sites event).store.record? guid = some record) := by
  intro fleet writer
  refine ⟨?_, fun event isWriter guid => record?_after sites fleet isWriter guid, ?_⟩
  · intro seed replacement committed succeeded
    obtain ⟨plan, old, record, planned, samePayload, succeeds, isStored, sameChecksum,
        sameKey, _, saved⟩ :=
      Synchronizer.replace_eq_ok succeeded
    obtain ⟨isCommitted, builds⟩ := Replacement.plan_eq_ok planned
    obtain ⟨password, holds⟩ :=
      holds_stored sites inverts history distinct isCommitted isStored sameChecksum
    have sameGuid := (Payload.checkSucceeds_eq_ok succeeds).2
    rw [← samePayload] at sameGuid
    rw [sameGuid] at isStored
    refine ⟨plan.previous, password, plan.password, old, record, holds, ?_, isStored, ?_,
      saved.checksum, sameKey⟩
    · rw [samePayload]
      exact builds password holds.isMain
    · rw [← sameGuid]
      exact saved.record?
  · intro event isWriter guid record isStored others
    rcases record?_after sites fleet isWriter guid with unchanged | ⟨isNew, _⟩ |
      ⟨_, _, previous, found, _, isCommitted, _, isFound, sameChecksum⟩
    · rw [unchanged]
      exact isStored
    · rw [isStored] at isNew
      cases isNew
    · rw [isStored] at isFound
      cases isFound
      exact absurd sameChecksum.symm (others previous isCommitted)

namespace Seen

variable {sites : ι → Surroundings} {history : List (Event ι)} {who : ι} {seed : Bytes}
  {call : Call} {text : String} (seen : Seen sites (.call who seed call :: history) text)
  (notGiven : ∀ password, call ≠ .loadText text password)

include seen notGiven

theorem of_accept {reader : Synchronizer} {committed : Committed} {password : String}
    (accepts : (run sites history).attempt sites who seed call =
      reader.accept (run sites history).store committed password) : Seen sites history text := by
  cases seen with
  | stored isStored =>
    rw [run, store_after_call, accepts] at isStored
    exact .stored isStored
  | given => exact absurd rfl (notGiven _)
  | earlier seen => exact seen

theorem of_saved {writer : Synchronizer} {surroundings : Surroundings} {committed : Committed}
    {password : String} {record : Record}
    (saved : writer.Saved surroundings (run sites history).store committed password record
      ((run sites history).attempt sites who seed call)) : text = record.text ∨
        Seen sites history text := by
  cases seen with
  | stored isStored =>
    rw [run, store_after_call] at isStored
    rcases saved.record?_cases isStored with rfl | wasStored
    · exact .inl rfl
    · exact .inr (.stored wasStored)
  | given => exact absurd rfl (notGiven _)
  | earlier seen => exact .inr seen

end Seen

namespace Annotates

variable {first second : Committed} {old new : Record} (annotates : Annotates first second old new)

include annotates

theorem checksum_ne : old.checksum ≠ new.checksum := by
  have wrapsOld := annotates.stores.wrapped
  have wrapsNew := annotates.saves.wrapped
  rw [annotates.isFirst] at wrapsOld
  rw [annotates.isSecond] at wrapsNew
  have isOld := Wrapped.mk.inj (Except.ok.inj (wrapsOld.symm.trans (wrap_of_encrypt rfl)))
  have isNew := Wrapped.mk.inj (Except.ok.inj (wrapsNew.symm.trans (wrap_of_encrypt rfl)))
  rw [isOld.2, isNew.2, Wrapper.checksum_wrapped, Wrapper.checksum_wrapped]
  decide +kernel

theorem seen_cases {text : String} (seen : Seen devices reread text) : text = old.text ∨
    text = new.text := by
  have noted := seen.of_accept nofun annotates.rereads
  rcases noted.of_saved nofun annotates.saves with isNew | shared
  · exact .inr isNew
  · have stored := shared.of_accept nofun annotates.loads
    rcases stored.of_saved nofun annotates.stores with isOld | nothing
    · exact .inl isOld
    · cases nothing with
      | stored isStored => cases isStored

theorem distinct {left right : String} (seenLeft : Seen devices reread left)
    (seenRight : Seen devices reread right) (same : Checksum.ofText left = Checksum.ofText right) :
    left = right := by
  have ownOld := (unwrap_eq_ok (annotates.stores.opens Toy.cipher_inverts)).2
  have ownNew := (unwrap_eq_ok (annotates.saves.opens Toy.cipher_inverts)).2
  have differ : Checksum.ofText old.text ≠ Checksum.ofText new.text := by
    rw [← ownOld, ← ownNew, ← annotates.stores.checksum, ← annotates.saves.checksum]
    exact annotates.checksum_ne
  rcases annotates.seen_cases seenLeft with rfl | rfl
  · rcases annotates.seen_cases seenRight with rfl | rfl
    · rfl
    · exact absurd same differ
  · rcases annotates.seen_cases seenRight with rfl | rfl
    · exact absurd same.symm differ
    · rfl

theorem record?_noted : (run devices noted).store.record? "guid" = some new := by
  have isGuid : second.payload.guid = "guid" := congrArg Payload.guid annotates.isSecond
  rw [noted, run, store_after_call, ← isGuid]
  exact annotates.saves.record?

theorem store_reread : (run devices reread).store = (run devices noted).store := by
  rw [reread, run, store_after_call, annotates.rereads, Synchronizer.store_accept]

theorem record?_reread : (run devices reread).store.record? "guid" = some new := by
  rw [annotates.store_reread]
  exact annotates.record?_noted

theorem committed_noted : ((run devices noted).synchronizer false).committed = some first := by
  rw [noted, run, synchronizer_after_of_ne _ _ (by decide), shared, run,
    synchronizer_after_of_ne _ _ (by decide), stored, run, synchronizer_after_call, run,
    annotates.stores.attempt_eq]
  rfl

theorem inStep_reread : ((run devices reread).synchronizer false).InStep
    (run devices reread).store second := by
  rw [annotates.store_reread, reread, run, synchronizer_after_call, annotates.rereads]
  have inStep := annotates.saves.inStep_accept ((run devices noted).synchronizer false)
  rw [← store_after_call] at inStep
  exact inStep

end Annotates

/-- A device that has not loaded the note cannot replace it. Once it has loaded the note, it
replaces it knowingly. -/
theorem noted_wallet_is_replaced_knowingly : ∃ (committed : Committed) (checksum : Checksum)
    (password : String) (record : Record),
    (run devices noted).store.record? "guid" = some record ∧
      ((run devices noted).after devices
        (.call false [] (.replace (.rewrap "other")))).store.record? "guid" = some record ∧
      ((run devices reread).attempt devices false [] (.replace (.rewrap "other"))).result =
        .ok committed ∧
      (run devices reread).store.record? "guid" = some record ∧
      unwrap Toy.cipher record.text password = .ok (.annotated, checksum) := by
  obtain ⟨first, second, old, new, annotates⟩ := exists_annotates
  obtain ⟨_, _, leaves⟩ := no_update_is_lost devices (fun _ => Toy.cipher_inverts) noted
    (fun _ _ seenLeft seenRight => annotates.distinct (.earlier seenLeft) (.earlier seenRight))
    false
  have stale : ∀ previous, ((run devices noted).synchronizer false).committed = some previous →
      previous.checksum ≠ new.checksum := by
    intro previous isCommitted
    cases annotates.committed_noted.symm.trans isCommitted
    exact annotates.stores.checksum ▸ annotates.checksum_ne
  have stays :=
    leaves (.call false [] (.replace (.rewrap "other"))) rfl "guid" new
    annotates.record?_noted stale
  obtain ⟨record, isStored, sameKey, sameChecksum⟩ := annotates.inStep_reread.isStored
  have hasDevice : Toy.surroundings.device = some ⟨"android", "1"⟩ := rfl
  obtain ⟨committed, rewrapped⟩ := Synchronizer.rewrap_succeeds "other"
    Toy.cipher_encrypts hasDevice annotates.inStep_reread.isCommitted annotates.saves.valid
    annotates.inStep_reread.noFailure isStored sameKey sameChecksum
  obtain ⟨replaces, _, _⟩ := no_update_is_lost devices (fun _ => Toy.cipher_inverts) reread
    (fun _ _ => annotates.distinct) false
  obtain ⟨previous, password, _, replaced, _, holds, _, isReplaced, _⟩ :=
    replaces [] (.rewrap "other") committed rewrapped
  cases annotates.inStep_reread.isCommitted.symm.trans holds.isCommitted
  rw [annotates.isSecond] at isReplaced
  cases annotates.record?_reread.symm.trans isReplaced
  have opens := holds.opens
  rw [annotates.isSecond] at opens
  exact ⟨committed, second.checksum, password, new, annotates.record?_noted, stays, rewrapped,
    annotates.record?_reread, opens⟩

end Fleet

end Coffer
