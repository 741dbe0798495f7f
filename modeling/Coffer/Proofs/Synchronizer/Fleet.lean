import Coffer.Proofs.Synchronizer.Outcomes
/-!
# Many synchronizers over one store

Any number of synchronizers share a store. Their calls come in any order, each one run to its end,
and between them failures are arranged, wallets are locked and texts are overwritten by others. What
a synchronizer holds always is what some text of the history opens to.
-/

namespace Coffer

/-- Any number of synchronizers over one store. -/
structure Fleet (ι : Type) where
  store : Store
  synchronizer : ι → Synchronizer

/-- What happens to a fleet. Each call brings a fresh seed. -/
inductive Event (ι : Type) where
  | call (who : ι) (seed : Bytes) (call : Call)
  | clear (who : ι)
  | failNext (cause : StoreError)
  | setLocked (guid : String) (isLocked : Bool)
  | overwrite (guid text : String)

/-- The synchronizer that an event is an act of, if it is not an act of others. -/
def Event.writer? {ι : Type} : Event ι → Option ι
  | .call who _ _ => some who
  | .clear who => some who
  | .failNext _ => none
  | .setLocked _ _ => none
  | .overwrite _ _ => none

/-- The surroundings of a call, which has a seed of its own. -/
def Surroundings.reseeded (surroundings : Surroundings) (seed : Bytes) : Surroundings :=
  { surroundings with services := { surroundings.services with seed } }

namespace Fleet

variable {ι : Type} [DecidableEq ι]

/-- The fleet at the beginning: nothing is stored and nothing is loaded. -/
def start : Fleet ι := ⟨.empty, fun _ => .initial⟩

def assign (fleet : Fleet ι) (who : ι) (synchronizer : Synchronizer) : Fleet ι :=
  { fleet with
    synchronizer := fun other => if other = who then synchronizer else fleet.synchronizer other }

/-- What a call by one of the synchronizers leaves. -/
def attempt (fleet : Fleet ι) (sites : ι → Surroundings) (who : ι) (seed : Bytes) (call : Call) :
    Attempt Committed :=
  call.perform (fleet.synchronizer who) ((sites who).reseeded seed) fleet.store

/-- The fleet after an event. -/
def after (fleet : Fleet ι) (sites : ι → Surroundings) : Event ι → Fleet ι
  | .call who seed call =>
    { fleet.assign who (fleet.attempt sites who seed call).synchronizer with
      store := (fleet.attempt sites who seed call).store }
  | .clear who => fleet.assign who .initial
  | .failNext cause => { fleet with store := fleet.store.failNext cause }
  | .setLocked guid isLocked => { fleet with store := fleet.store.setLocked guid isLocked }
  | .overwrite guid text => { fleet with store := (fleet.store.overwrite guid text).2 }

theorem synchronizer_after_call (fleet : Fleet ι) (sites : ι → Surroundings) (who : ι)
    (seed : Bytes) (call : Call) : (fleet.after sites (.call who seed call)).synchronizer who =
      (fleet.attempt sites who seed call).synchronizer :=
  if_pos rfl

theorem store_after_call (fleet : Fleet ι) (sites : ι → Surroundings) (who : ι) (seed : Bytes)
    (call : Call) :
    (fleet.after sites (.call who seed call)).store = (fleet.attempt sites who seed call).store :=
  rfl

theorem synchronizer_after_clear (fleet : Fleet ι) (sites : ι → Surroundings) (who : ι) :
    (fleet.after sites (.clear who)).synchronizer who = .initial :=
  if_pos rfl

theorem synchronizer_after_of_ne (fleet : Fleet ι) (sites : ι → Surroundings)
    {event : Event ι} {who : ι} (other : event.writer? ≠ some who) :
    (fleet.after sites event).synchronizer who = fleet.synchronizer who := by
  cases event with
  | call caller seed call => exact if_neg fun same => other (congrArg some same.symm)
  | clear caller => exact if_neg fun same => other (congrArg some same.symm)
  | failNext cause => rfl
  | setLocked guid isLocked => rfl
  | overwrite guid text => rfl

/-- The fleet after a history, of which the newest event comes first. -/
def run (sites : ι → Surroundings) : List (Event ι) → Fleet ι
  | [] => start
  | event :: history => (run sites history).after sites event

/-- The texts of a history: those that stood in the store, and those that came some other way. -/
inductive Seen (sites : ι → Surroundings) : List (Event ι) → String → Prop where
  | stored {history : List (Event ι)} {guid : String} {record : Record}
    (isStored : (run sites history).store.record? guid = some record) :
    Seen sites history record.text
  | given {history : List (Event ι)} {who : ι} {seed : Bytes} {text password : String} :
    Seen sites (.call who seed (.loadText text password) :: history) text
  | earlier {history : List (Event ι)} {event : Event ι} {text : String}
    (seen : Seen sites history text) : Seen sites (event :: history) text

end Fleet

def Store.Honest (store : Store) : Prop :=
  ∀ guid record, store.record? guid = some record → record.checksum = .ofText record.text

namespace Store

theorem honest_of_records {store next : Store} (records : next.records = store.records)
    (honest : store.Honest) : next.Honest := by
  intro guid record isStored
  rw [record?, records] at isStored
  exact honest guid record isStored

theorem Honest.put {store : Store} (honest : store.Honest) (guid : String) {record : Record}
    (own : record.checksum = .ofText record.text) : (store.put guid record).Honest := by
  intro other found isStored
  rw [record?_put] at isStored
  split at isStored
  · cases isStored
    exact own
  · exact honest other found isStored

theorem Honest.overwrite {store : Store} (honest : store.Honest) (guid text : String) :
    (store.overwrite guid text).2.Honest := by
  unfold Store.overwrite
  split
  · exact honest
  · exact honest.put guid rfl

end Store

theorem Outcome.honest {call : Call} {synchronizer : Synchronizer} {surroundings : Surroundings}
    {store : Store} {attempt : Attempt Committed}
    (outcome : Outcome call synchronizer surroundings store attempt)
    (honest : store.Honest) : attempt.store.Honest := by
  cases outcome with
  | failed records => exact Store.honest_of_records records honest
  | loaded opens source => exact honest
  | inserted isCall isNew saved =>
    rw [saved.attempt_eq]
    obtain ⟨_, _, _, own⟩ := wrap_eq_ok saved.wrapped
    exact honest.put _ own
  | updated isCall planned samePayload succeeds isStored sameChecksum sameKey saved =>
    rw [saved.attempt_eq]
    obtain ⟨_, _, _, own⟩ := wrap_eq_ok saved.wrapped
    exact honest.put _ own

namespace Fleet

variable {ι : Type} [DecidableEq ι] (sites : ι → Surroundings)

theorem honest_run (history : List (Event ι)) : (run sites history).store.Honest := by
  induction history with
  | nil =>
    intro guid record isStored
    cases isStored
  | cons event history ih =>
    cases event with
    | call who seed call => exact (call.outcome _ _ _).honest ih
    | clear who => exact ih
    | failNext cause => exact ih
    | setLocked guid isLocked => exact ih
    | overwrite guid text => exact ih.overwrite guid text

end Fleet

/-- A synchronizer holds what a text opens to, and the password that opens it. -/
structure Synchronizer.Holds (synchronizer : Synchronizer) (cipher : Cipher) (committed : Committed)
    (password text : String) : Prop where
  isCommitted : synchronizer.committed = some committed
  isMain : synchronizer.password = some password
  opens : unwrap cipher text password = .ok (committed.payload, committed.checksum)

/-- A synchronizer holds nothing, or what one of the known texts opens to. -/
def Synchronizer.Coherent (synchronizer : Synchronizer) (cipher : Cipher) (known : String → Prop) :
    Prop :=
  (synchronizer.committed = none ∧ synchronizer.password = none) ∨
    ∃ committed password text, known text ∧ synchronizer.Holds cipher committed password text

theorem Synchronizer.holds_accept (synchronizer : Synchronizer) (store : Store) {cipher : Cipher}
    {committed : Committed} {password text : String}
    (opens : unwrap cipher text password = .ok (committed.payload, committed.checksum)) :
    (synchronizer.accept store committed password).synchronizer.Holds cipher committed
      password text :=
  ⟨rfl, rfl, opens⟩

theorem Synchronizer.Saved.opens {synchronizer : Synchronizer} {surroundings : Surroundings}
    {store : Store} {committed : Committed} {password : String} {record : Record}
    {attempt : Attempt Committed}
    (saved : synchronizer.Saved surroundings store committed password record attempt)
    (inverts : surroundings.services.cipher.Inverts) :
    unwrap surroundings.services.cipher record.text password =
      .ok (committed.payload, committed.checksum) := by
  have opened := unwrap_wrap inverts (Payload.positive_of_valid saved.valid) saved.wrapped
  rw [opened, saved.valid, ← saved.checksum]
  rfl

theorem Synchronizer.Saved.record? {synchronizer : Synchronizer} {surroundings : Surroundings}
    {store : Store} {committed : Committed} {password : String} {record : Record}
    {attempt : Attempt Committed}
    (saved : synchronizer.Saved surroundings store committed password record attempt) :
    attempt.store.record? committed.payload.guid = some record := by
  rw [saved.attempt_eq]
  exact (Store.record?_put ..).trans (if_pos rfl)

theorem Synchronizer.Coherent.mono {synchronizer : Synchronizer} {cipher : Cipher}
    {known later : String → Prop} (coherent : synchronizer.Coherent cipher known)
    (grows : ∀ text, known text → later text) : synchronizer.Coherent cipher later := by
  rcases coherent with nothing | ⟨committed, password, text, isKnown, holds⟩
  · exact .inl nothing
  · exact .inr ⟨committed, password, text, grows text isKnown, holds⟩

/-- A call keeps its synchronizer coherent, with what is stored afterwards or is given to the
call. -/
theorem Outcome.coherent {call : Call} {synchronizer : Synchronizer} {surroundings : Surroundings}
    {store : Store} {attempt : Attempt Committed}
    (outcome : Outcome call synchronizer surroundings store attempt)
    (inverts : surroundings.services.cipher.Inverts) {known : String → Prop}
    (coherent : synchronizer.Coherent surroundings.services.cipher known)
    (stored : ∀ guid record, store.record? guid = some record → known record.text)
    (storedAfter : ∀ guid record, attempt.store.record? guid = some record → known record.text)
    (given : ∀ text password, call = .loadText text password → known text) :
    attempt.synchronizer.Coherent surroundings.services.cipher known := by
  have afterSave {committed : Committed} {password : String} {record : Record}
      (saved : synchronizer.Saved surroundings store committed password record attempt) :
      attempt.synchronizer.Coherent surroundings.services.cipher known := by
    have isKnown := storedAfter _ record saved.record?
    rw [saved.attempt_eq]
    exact .inr ⟨committed, password, record.text, isKnown,
      synchronizer.holds_accept _ (saved.opens inverts)⟩
  cases outcome with
  | failed records => exact coherent
  | @loaded committed text password opens source =>
    refine .inr ⟨committed, password, text, ?_, synchronizer.holds_accept store opens⟩
    rcases source with isGiven | ⟨guid, sharedKey, record, _, isStored, rfl⟩
    · exact given text password isGiven
    · exact stored guid record isStored
  | inserted isCall isNew saved => exact afterSave saved
  | updated isCall planned samePayload succeeds isStored sameChecksum sameKey saved =>
    exact afterSave saved

namespace Fleet

variable {ι : Type} [DecidableEq ι] (sites : ι → Surroundings)

theorem coherent_run (inverts : ∀ who, (sites who).services.cipher.Inverts)
    (history : List (Event ι)) (who : ι) :
    ((run sites history).synchronizer who).Coherent (sites who).services.cipher
      (Seen sites history) := by
  induction history with
  | nil => exact .inl ⟨rfl, rfl⟩
  | cons event history ih =>
    -- What was seen is seen for good, so that only the acts of `who` itself are left to look at.
    have before : ((run sites history).synchronizer who).Coherent (sites who).services.cipher
        (Seen sites (event :: history)) := ih.mono fun _ seen => .earlier seen
    by_cases isWriter : event.writer? = some who
    · cases event with
      | call caller seed call =>
        cases isWriter
        have outcome := call.outcome ((run sites history).synchronizer who)
          ((sites who).reseeded seed) (run sites history).store
        have storedAfter : ∀ guid record,
            (run sites (.call who seed call :: history)).store.record? guid = some record →
            Seen sites (.call who seed call :: history) record.text :=
              fun _ _ isStored => .stored isStored
        rw [run, synchronizer_after_call]
        exact outcome.coherent (inverts who) before (fun _ _ isStored =>
          .earlier (.stored isStored)) storedAfter (fun _ _ isGiven => isGiven ▸ .given)
      | clear caller =>
        cases isWriter
        rw [run, synchronizer_after_clear]
        exact .inl ⟨rfl, rfl⟩
      | failNext cause => cases isWriter
      | setLocked guid isLocked => cases isWriter
      | overwrite guid text => cases isWriter
    · rw [run, synchronizer_after_of_ne _ _ isWriter]
      exact before

end Fleet

end Coffer
