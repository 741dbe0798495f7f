import Coffer.Proofs.Synchronizer.Failures
import Coffer.Proofs.Wrapper
/-!
# All that a call can do

Every call fails, loads, stores a new wallet, or replaces what is committed. Whatever is to be kept
through all calls needs to be checked for these four.
-/

namespace Coffer

inductive Outcome (call : Call) (synchronizer : Synchronizer) (surroundings : Surroundings)
    (store : Store) : Attempt Committed → Prop where
  | failed {cause : WalletError} {next : Store} (records : next.records = store.records) :
    Outcome call synchronizer surroundings store ⟨.error cause, synchronizer, next⟩
  | loaded {committed : Committed} {text password : String}
    (opens : unwrap surroundings.services.cipher text password =
      .ok (committed.payload, committed.checksum))
    (source : call = .loadText text password ∨
      ∃ guid sharedKey record, call = .load guid sharedKey password ∧
      store.record? guid = some record ∧ record.text = text) :
    Outcome call synchronizer surroundings store (synchronizer.accept store committed password)
  | inserted {committed : Committed} {password email : String} {record : Record}
    {attempt : Attempt Committed} (isCall : call = .saveNew committed.payload password email)
    (isNew : store.record? committed.payload.guid = none)
    (saved : synchronizer.Saved surroundings store committed password record attempt) :
    Outcome call synchronizer surroundings store attempt
  | updated {replacement : Replacement} {plan : Plan} {committed : Committed} {old record : Record}
    {attempt : Attempt Committed} (isCall : call = .replace replacement)
    (planned : replacement.plan synchronizer = .ok plan) (samePayload : committed.payload =
      plan.candidate)
    (succeeds : plan.candidate.checkSucceeds plan.previous.payload = .ok ())
    (isStored : store.record? committed.payload.guid = some old) (sameChecksum : old.checksum =
      plan.previous.checksum)
    (sameKey : record.sharedKey = old.sharedKey)
    (saved : synchronizer.Saved surroundings store committed plan.password record attempt) :
    Outcome call synchronizer surroundings store attempt

theorem Call.outcome (call : Call) (synchronizer : Synchronizer) (surroundings : Surroundings)
    (store : Store) :
    Outcome call synchronizer surroundings store
      (call.perform synchronizer surroundings store) := by
  cases result : (call.perform synchronizer surroundings store).result with
  | error cause =>
    obtain ⟨same, left⟩ := (call.course synchronizer surroundings store).of_error result
    have records : (call.perform synchronizer surroundings store).store.records =
        store.records := by
      rcases left with ⟨untouched, _⟩ | ⟨used, _⟩
      · rw [untouched]
      · rw [used]
    have failed : call.perform synchronizer surroundings store =
        ⟨.error cause, synchronizer, (call.perform synchronizer surroundings store).store⟩ :=
      calc call.perform synchronizer surroundings store
        _ = ⟨(call.perform synchronizer surroundings store).result,
            (call.perform synchronizer surroundings store).synchronizer,
            (call.perform synchronizer surroundings store).store⟩ := rfl
        _ = _ := by rw [result, same]
    rw [failed]
    exact .failed records
  | ok committed =>
    cases call with
    | saveNew payload password email =>
      obtain ⟨rfl, isNew, record, saved⟩ := Synchronizer.saveNew_eq_ok result
      exact .inserted rfl isNew saved
    | load guid sharedKey password =>
      obtain ⟨accepted, record, isStored, opens⟩ := Synchronizer.load_eq_ok result
      rw [perform, accepted]
      exact .loaded opens (.inr ⟨guid, sharedKey, record, rfl, isStored, rfl⟩)
    | loadText text password =>
      obtain ⟨accepted, opens⟩ := Synchronizer.loadText_eq_ok result
      rw [perform, accepted]
      exact .loaded opens (.inl rfl)
    | replace replacement =>
      obtain ⟨plan, old, record, planned, samePayload, succeeds, isStored, sameChecksum,
          sameKey, _, saved⟩ :=
        Synchronizer.replace_eq_ok result
      exact .updated rfl planned samePayload succeeds isStored sameChecksum sameKey saved

end Coffer
