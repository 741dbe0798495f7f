import Coffer.Store
/-!
# What requests do to a store

A request that is refused leaves every record as it was; at most an arranged failure is used up. A
request that is carried out found no such failure, and a write changes the record of one wallet
only.
-/

namespace Coffer

inductive StoreRequest where
  | fetch (guid sharedKey : String)
  | insert (request : InsertRequest)
  | update (request : UpdateRequest)
  deriving DecidableEq

/-- The record that a first write makes. -/
def InsertRequest.record (request : InsertRequest) : Record :=
  ⟨request.sharedKey, request.text, request.checksum, request.email, request.device, [], 0⟩

/-- The record that a replacement makes of the one that is there. -/
def UpdateRequest.record (request : UpdateRequest) (old : Record) : Record :=
  ⟨old.sharedKey, request.text, request.newChecksum, old.email, request.device, request.announced,
    old.updates + 1⟩

namespace Store

def put (store : Store) (guid : String) (record : Record) : Store :=
  { store with records := store.records.insert guid record }

theorem record?_put (store : Store) (guid other : String) (record : Record) :
    (store.put guid record).record? other = if other = guid then
      some record else store.record? other :=
  store.records.find?_insert guid other record

/-- Whether a store carries a request out, and the store that is left. -/
def serve (store : Store) : StoreRequest → Except StoreError Unit × Store
  | .fetch guid sharedKey =>
    ((store.fetch guid sharedKey).1.map fun _ => (), (store.fetch guid sharedKey).2)
  | .insert request => store.insert request
  | .update request => store.update request

section

variable {α : Type} {store next : Store} {carryOut : Store → Except StoreError (α × Store)}

theorem answer_eq_error {cause : StoreError}
    (refused : store.answer carryOut = (.error cause, next)) :
    next = { store with failure := none } := by
  unfold answer at refused
  split at refused
  · cases refused
    rfl
  · rename_i noFailure
    split at refused
    · cases refused
    · cases refused
      rw [← noFailure]

theorem answer_eq_ok {value : α} (carried : store.answer carryOut = (.ok value, next)) :
    store.failure = none ∧ carryOut store = .ok (value, next) := by
  unfold answer at carried
  split at carried
  · cases carried
  · rename_i noFailure
    split at carried
    · rename_i found
      cases carried
      exact ⟨noFailure, found⟩
    · cases carried

theorem answer_of_ok {value : α} (noFailure : store.failure = none)
    (carried : carryOut store = .ok (value, next)) : store.answer carryOut = (.ok value, next) := by
  simp only [answer, noFailure, carried]

end

section

variable {store next : Store} {guid sharedKey text : String}

/-- A text that is fetched is the one of the wallet's record, and the store stays as it is. -/
theorem fetch_eq_ok (fetched : store.fetch guid sharedKey = (.ok text, next)) :
    next = store ∧ store.failure = none ∧
      ∃ record, store.record? guid = some record ∧ record.sharedKey = sharedKey ∧
        record.text = text := by
  obtain ⟨noFailure, carried⟩ := answer_eq_ok fetched
  split at carried
  · cases carried
  · split at carried
    · cases carried
    · rename_i record isStored
      split at carried
      · rename_i sameKey
        cases carried
        exact ⟨rfl, noFailure, record, isStored, sameKey, rfl⟩
      · cases carried

theorem fetch_of_record {record : Record} (noFailure : store.failure = none)
    (notLocked : guid ∉ store.locked) (isStored : store.record? guid = some record) :
    store.fetch guid record.sharedKey = (.ok record.text, store) := by
  apply answer_of_ok noFailure
  simp only [if_neg notLocked, isStored, if_pos]

end

theorem insert_eq_ok {store next : Store} {request : InsertRequest}
    (inserted : store.insert request = (.ok (), next)) :
    store.failure = none ∧ store.record? request.guid = none ∧
      next = store.put request.guid request.record := by
  obtain ⟨noFailure, carried⟩ := answer_eq_ok inserted
  split at carried
  · cases carried
  · rename_i isNew
    cases carried
    exact ⟨noFailure, isNew, rfl⟩

/-- A replacement needs the record of the wallet under the shared key and the checksum that were
named. -/
theorem update_eq_ok {store next : Store} {request : UpdateRequest}
    (updated : store.update request = (.ok (), next)) :
    store.failure = none ∧ ∃ record, store.record? request.guid = some record ∧
      record.sharedKey = request.sharedKey ∧ record.checksum = request.oldChecksum ∧
      next = store.put request.guid (request.record record) := by
  obtain ⟨noFailure, carried⟩ := answer_eq_ok updated
  split at carried
  · cases carried
  · rename_i record isStored
    split at carried
    · cases carried
    · rename_i sameKey
      split at carried
      · cases carried
      · rename_i sameChecksum
        cases carried
        exact ⟨noFailure, record, isStored, Decidable.not_not.mp sameKey,
          Decidable.not_not.mp sameChecksum, rfl⟩

theorem update_of_record {store : Store} {request : UpdateRequest} {record : Record}
    (noFailure : store.failure = none) (isStored : store.record? request.guid = some record)
    (sameKey : record.sharedKey = request.sharedKey)
    (sameChecksum : record.checksum = request.oldChecksum) :
    store.update request = (.ok (), store.put request.guid (request.record record)) := by
  have key : ¬ record.sharedKey ≠ request.sharedKey := fun other => other sameKey
  have checksum : ¬ record.checksum ≠ request.oldChecksum := fun other => other sameChecksum
  apply answer_of_ok noFailure
  simp only [isStored, if_neg key, if_neg checksum]
  rfl

theorem serve_fetch {store next : Store} {guid sharedKey : String}
    {answer : Except StoreError String} (fetched : store.fetch guid sharedKey = (answer, next)) :
    store.serve (.fetch guid sharedKey) = (answer.map fun _ => (), next) := by
  rw [serve, fetched]

theorem serve_eq_error {store next : Store} {request : StoreRequest} {cause : StoreError}
    (refused : store.serve request = (.error cause, next)) :
    next = { store with failure := none } := by
  cases request with
  | fetch guid sharedKey =>
    cases fetched : store.fetch guid sharedKey with
    | mk answer next =>
      rw [serve_fetch fetched] at refused
      cases answer with
      | error other =>
        cases refused
        exact answer_eq_error fetched
      | ok text => cases refused
  | insert request =>
    rw [serve, insert] at refused
    exact answer_eq_error refused
  | update request =>
    rw [serve, update] at refused
    exact answer_eq_error refused

theorem serve_fetch_eq_ok {store next : Store} {guid sharedKey : String}
    (served : store.serve (.fetch guid sharedKey) = (.ok (), next)) : next = store := by
  cases fetched : store.fetch guid sharedKey with
  | mk answer after =>
    rw [serve_fetch fetched] at served
    cases answer with
    | error cause => cases served
    | ok text =>
      cases served
      exact (fetch_eq_ok fetched).1

end Store

end Coffer
