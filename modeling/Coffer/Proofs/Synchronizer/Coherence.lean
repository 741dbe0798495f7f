import Coffer.Proofs.Synchronizer.Saves
/-!
# What is committed can be read again

Payload, checksum and password of a synchronizer always belong to one text. Right after a save that
is the text in the store, so that anyone who loads it under the same password commits the same. From
one load to the next, saves keep the identity of the wallet and never go back to an older version.
-/

namespace Coffer

/-- Whether a call writes to the store. -/
def Call.isSave : Call → Bool
  | .saveNew _ _ _ => true
  | .load _ _ _ => false
  | .loadText _ _ => false
  | .replace _ => true

section

variable {call : Call} {synchronizer : Synchronizer} {surroundings : Surroundings} {store : Store}
  {attempt : Attempt Committed} {committed : Committed}

theorem Outcome.saved (outcome : Outcome call synchronizer surroundings store attempt)
    (isSave : call.isSave = true) (succeeded : attempt.result = .ok committed) :
    ∃ password record, synchronizer.Saved surroundings store committed password record attempt := by
  cases outcome with
  | failed records => cases succeeded
  | loaded opens source =>
    rcases source with rfl | ⟨guid, sharedKey, record, rfl, _⟩
    · cases isSave
    · cases isSave
  | inserted isCall isNew saved =>
    rw [saved.attempt_eq] at succeeded
    cases succeeded
    exact ⟨_, _, saved⟩
  | updated isCall planned samePayload succeeds isStored sameChecksum sameKey saved =>
    rw [saved.attempt_eq] at succeeded
    cases succeeded
    exact ⟨_, _, saved⟩

end

/-- A committed state is followed by another of the same wallet, not of an older version. -/
def Committed.FollowedBy (committed later : Committed) : Prop :=
  later.payload.guid = committed.payload.guid ∧
    committed.payload.version.number ≤ later.payload.version.number

theorem Committed.FollowedBy.trans {first second third : Committed} (left : first.FollowedBy second)
    (right : second.FollowedBy third) : first.FollowedBy third :=
  ⟨right.1.trans left.1, UInt8.le_trans left.2 right.2⟩

theorem Outcome.followedBy {replacement : Replacement} {synchronizer : Synchronizer}
    {surroundings : Surroundings} {store : Store} {attempt : Attempt Committed}
    {committed : Committed} (outcome : Outcome (.replace replacement) synchronizer surroundings
      store attempt)
    (isCommitted : synchronizer.committed = some committed) :
    ∃ later, attempt.synchronizer.committed = some later ∧ committed.FollowedBy later := by
  cases outcome with
  | failed records => exact ⟨committed, isCommitted, rfl, UInt8.le_refl _⟩
  | loaded opens source =>
    rcases source with isCall | ⟨_, _, _, isCall, _⟩
    · cases isCall
    · cases isCall
  | inserted isCall isNew saved => cases isCall
  | @updated _ plan later _ _ _ isCall planned samePayload succeeds isStored sameChecksum
      sameKey saved =>
    cases isCall
    have isPrevious := (Replacement.plan_eq_ok planned).1
    rw [isCommitted] at isPrevious
    cases isPrevious
    obtain ⟨newer, sameGuid⟩ := Payload.checkSucceeds_eq_ok succeeds
    rw [← samePayload] at newer sameGuid
    rw [saved.attempt_eq]
    exact ⟨later, rfl, sameGuid, newer⟩

namespace Fleet

variable {ι : Type} [DecidableEq ι] (sites : ι → Surroundings)

/-- As long as a synchronizer only replaces, what it has committed is followed by what it
commits. -/
theorem followedBy_run (history segment : List (Event ι)) (who : ι)
    (replaces : ∀ event ∈ segment, event.writer? = some who →
      ∃ seed replacement, event = .call who seed (.replace replacement))
    {committed : Committed} (isCommitted : ((run sites history).synchronizer who).committed =
      some committed) :
    ∃ later, ((run sites (segment ++ history)).synchronizer who).committed = some later ∧
      committed.FollowedBy later := by
  induction segment with
  | nil => exact ⟨committed, isCommitted, rfl, UInt8.le_refl _⟩
  | cons event segment ih =>
    obtain ⟨later, isLater, follows⟩ :=
      ih fun other isIn => replaces other (List.mem_cons_of_mem event isIn)
    rw [List.cons_append, run]
    by_cases isWriter : event.writer? = some who
    · obtain ⟨seed, replacement, rfl⟩ := replaces event List.mem_cons_self isWriter
      rw [synchronizer_after_call]
      obtain ⟨latest, isLatest, goesOn⟩ :=
        (Call.outcome (.replace replacement) _ _ _).followedBy isLater
      exact ⟨latest, isLatest, follows.trans goesOn⟩
    · rw [synchronizer_after_of_ne _ _ isWriter]
      exact ⟨later, isLater, follows⟩

/-- In every state of every run, each synchronizer has either nothing or a valid payload, its
checksum and its password, all of which belong to one text. After a save that text stands in the
store, and whoever loads it commits the same. Between loads the wallet stays the same and its
version never goes back. -/
theorem committed_state_stays_coherent (inverts : ∀ who, (sites who).services.cipher.Inverts)
    (history : List (Event ι)) (who : ι) :
    let fleet := run sites history
    let cipher := (sites who).services.cipher
    (((fleet.synchronizer who).committed = none ∧ (fleet.synchronizer who).password = none) ∨
      ∃ committed password text, (fleet.synchronizer who).Holds cipher committed password text ∧
        committed.payload.validate = .ok () ∧ committed.checksum = .ofText text) ∧
    (∀ seed call committed, call.isSave = true →
      (fleet.attempt sites who seed call).result = .ok committed →
      let next := fleet.after sites (.call who seed call)
      ∃ password record, next.store.record? committed.payload.guid = some record ∧
        (next.synchronizer who).Holds cipher committed password record.text ∧
        record.checksum = committed.checksum ∧ committed.checksum = .ofText record.text ∧
        ∀ reader fresh, (sites reader).services.cipher = cipher →
          committed.payload.guid ∉ next.store.locked →
            (next.attempt sites reader fresh
              (.load committed.payload.guid committed.payload.sharedKey password)).result =
                .ok committed) ∧
    (∀ segment committed, (∀ event ∈ segment, event.writer? = some who →
        ∃ seed replacement, event = .call who seed (.replace replacement)) →
      (fleet.synchronizer who).committed = some committed →
      ∃ later, ((run sites (segment ++ history)).synchronizer who).committed = some later ∧
        committed.FollowedBy later) := by
  intro fleet cipher
  refine ⟨?_, ?_, fun segment committed replaces =>
    followedBy_run sites history segment who replaces⟩
  · rcases coherent_run sites inverts history who with
      nothing | ⟨committed, password, text, _, holds⟩
    · exact .inl nothing
    · obtain ⟨valid, own⟩ := unwrap_eq_ok holds.opens
      exact .inr ⟨committed, password, text, holds, valid, own⟩
  · intro seed call committed isSave succeeded next
    obtain ⟨password, record, saved⟩ := (call.outcome _ _ _).saved isSave succeeded
    have opens := saved.opens (inverts who)
    have isStored : next.store.record? committed.payload.guid = some record := saved.record?
    have holds : (next.synchronizer who).Holds cipher committed password record.text := by
      rw [synchronizer_after_call, attempt, saved.attempt_eq]
      exact Synchronizer.holds_accept _ _ opens
    refine ⟨password, record, isStored, holds, saved.checksum, (unwrap_eq_ok opens).2, ?_⟩
    intro reader fresh sameCipher notLocked
    have loaded : (next.synchronizer reader).load next.store (sites reader).services.cipher
        committed.payload.guid committed.payload.sharedKey password =
          (next.synchronizer reader).accept next.store committed password := by
      rw [sameCipher]
      exact saved.load (inverts who) (next.synchronizer reader) notLocked
    exact congrArg Attempt.result loaded

/-- When another device has loaded the wallet and saved a note, the first one loads just that. The
wallet that the other device has committed is still the one that it loaded. -/
theorem noted_wallet_stays_coherent : ∃ (first second later : Committed) (password : String),
    ((run devices shared).synchronizer true).committed = some first ∧
      ((run devices shared).attempt devices true [] annotate).result = .ok second ∧
      second.payload = .annotated ∧
      ((run devices noted).attempt devices false []
        (.load second.payload.guid second.payload.sharedKey password)).result = .ok second ∧
      ((run devices noted).synchronizer true).committed = some later ∧ first.FollowedBy later := by
  obtain ⟨first, second, old, new, annotates⟩ := exists_annotates
  have isCommitted : ((run devices shared).synchronizer true).committed = some first := by
    rw [shared, run, synchronizer_after_call, annotates.loads]
    rfl
  have succeeded : ((run devices shared).attempt devices true [] annotate).result = .ok second := by
    rw [annotates.saves.attempt_eq]
    rfl
  obtain ⟨_, saves, follows⟩ :=
    committed_state_stays_coherent devices (fun _ => Toy.cipher_inverts) shared true
  obtain ⟨password, _, _, _, _, _, loads⟩ := saves [] annotate second rfl succeeded
  have notLocked : second.payload.guid ∉ (run devices noted).store.locked := by
    rw [annotates.noneLocked]
    exact List.not_mem_nil
  obtain ⟨later, isLater, stays⟩ := follows [.call true [] annotate] first
    (fun _ isIn _ => ⟨[], _, List.mem_singleton.mp isIn⟩) isCommitted
  exact ⟨first, second, later, password, isCommitted, succeeded, annotates.isSecond,
    loads false [] rfl notLocked, isLater, stays⟩

end Fleet

end Coffer
