import Coffer.Proofs.Synchronizer.Calls
/-!
# Calls that fail

A call makes at most one request of the store and decides everything else by itself. Whatever makes
it fail, the synchronizer is left as it was and so is every record. Only a refusal by the store can
use up a failure that was arranged there.
-/

namespace Coffer.Call

variable {call : Call} {synchronizer : Synchronizer} {surroundings : Surroundings} {store : Store}

/-- The requests that a call makes of the store. -/
def requests (call : Call) (synchronizer : Synchronizer) (surroundings : Surroundings) :
    List StoreRequest :=
  match call with
  | .saveNew payload password email =>
    match Synchronizer.draftFirst surroundings payload password email with
    | .ok request => [.insert request]
    | .error _ => []
  | .load guid sharedKey _ => [.fetch guid sharedKey]
  | .loadText _ _ => []
  | .replace replacement =>
    match replacement.draft synchronizer surroundings with
    | .ok draft => [.update draft.request]
    | .error _ => []

/-- How a call goes about the store. It settles everything without it, is refused, cannot use what
it is answered, or is carried out. -/
inductive Course (synchronizer : Synchronizer) (store : Store) : List StoreRequest →
    Attempt Committed → Prop where
  | declined (cause : WalletError) : Course synchronizer store [] (synchronizer.refuse store cause)
  | installed (committed : Committed) (password : String) :
    Course synchronizer store [] (synchronizer.accept store committed password)
  | refused {request : StoreRequest} {refusal : StoreError} {next : Store} (cause : WalletError)
    (served : store.serve request = (.error refusal, next)) :
    Course synchronizer store [request] (synchronizer.refuse next cause)
  | unusable {guid sharedKey : String} {next : Store} (cause : WalletError)
    (served : store.serve (.fetch guid sharedKey) = (.ok (), next)) :
    Course synchronizer store [.fetch guid sharedKey] (synchronizer.refuse next cause)
  | carriedOut {request : StoreRequest} {next : Store} (committed : Committed) (password : String)
    (served : store.serve request = (.ok (), next)) :
    Course synchronizer store [request] (synchronizer.accept next committed password)

theorem course (call : Call) (synchronizer : Synchronizer) (surroundings : Surroundings)
    (store : Store) : Course synchronizer store (call.requests synchronizer surroundings)
      (call.perform synchronizer surroundings store) := by
  cases call with
  | saveNew payload password email =>
    rw [perform, Synchronizer.saveNew, requests]
    cases Synchronizer.draftFirst surroundings payload password email with
    | error cause => exact .declined cause
    | ok request =>
      cases inserted : store.insert request with
      | mk answer next =>
        have served : store.serve (.insert request) = (answer, next) := inserted
        simp only [inserted]
        cases answer with
        | error refusal => exact .refused refusal.onFetch served
        | ok _ => exact .carriedOut _ password served
  | load guid sharedKey password =>
    rw [perform, Synchronizer.load, requests]
    cases fetched : store.fetch guid sharedKey with
    | mk answer next =>
      have served := Store.serve_fetch fetched
      cases answer with
      | error refusal => exact .refused refusal.onFetch served
      | ok text =>
        simp only
        cases Synchronizer.readStored surroundings.services.cipher guid sharedKey text password with
        | error cause => exact .unusable cause served
        | ok committed => exact .carriedOut committed password served
  | loadText text password =>
    rw [perform, Synchronizer.loadText, requests]
    cases unwrap surroundings.services.cipher text password with
    | error cause => exact .declined cause
    | ok held => exact .installed _ password
  | replace replacement =>
    rw [perform, Replacement.perform_eq_submit, requests]
    cases replacement.draft synchronizer surroundings with
    | error cause => exact .declined cause
    | ok draft =>
      simp only [Synchronizer.submit]
      cases updated : store.update draft.request with
      | mk answer next =>
        have served : store.serve (.update draft.request) = (answer, next) := updated
        cases answer with
        | error refusal => exact .refused (refusal.onWrite draft.request.oldChecksum) served
        | ok _ => exact .carriedOut _ draft.password served

namespace Course

variable {requests : List StoreRequest} {attempt : Attempt Committed}

theorem store_eq_foldl (course : Course synchronizer store requests attempt) :
    attempt.store = requests.foldl (fun store request => (store.serve request).2) store := by
  cases course with
  | declined cause => rfl
  | installed committed password => rfl
  | refused cause served => exact (congrArg Prod.snd served).symm
  | unusable cause served => exact (congrArg Prod.snd served).symm
  | carriedOut committed password served => exact (congrArg Prod.snd served).symm

/-- A call that fails leaves the synchronizer alone. Either the store is as it was, and has been
asked for a text at most, or it has refused, which can only use up an arranged failure. -/
theorem of_error {cause : WalletError} (course : Course synchronizer store requests attempt)
    (failed : attempt.result = .error cause) :
    attempt.synchronizer = synchronizer ∧
      ((attempt.store = store ∧
        ∀ request ∈ requests, ∃ guid sharedKey, request = .fetch guid sharedKey) ∨
        attempt.store = { store with failure := none } ∧
          ∃ request ∈ requests, (store.serve request).1 ≠ .ok ()) := by
  cases course with
  | declined cause => exact ⟨rfl, .inl ⟨rfl, fun _ isIn => nomatch isIn⟩⟩
  | installed committed password => cases failed
  | @refused request refusal next cause served =>
    have isRefused : (store.serve request).1 ≠ .ok () := by
      rw [served]
      exact fun carried => nomatch carried
    exact ⟨rfl, .inr ⟨Store.serve_eq_error served, request, List.mem_cons_self, isRefused⟩⟩
  | @unusable guid sharedKey next cause served =>
    exact ⟨rfl, .inl ⟨Store.serve_fetch_eq_ok served, fun _ isIn =>
      ⟨guid, sharedKey, List.mem_singleton.mp isIn⟩⟩⟩
  | carriedOut committed password served => cases failed

end Course

/-- A call that fails changes neither the synchronizer nor any record. Its requests are all that
reaches the store. Unless it is the store that refuses one of them, nothing is written there at all,
and a failure that was arranged is still to come. -/
theorem failed_call_changes_nothing {cause : WalletError}
    (failed : (call.perform synchronizer surroundings store).result = .error cause) :
    (call.perform synchronizer surroundings store).synchronizer = synchronizer ∧
      (call.perform synchronizer surroundings store).store.records = store.records ∧
      (call.perform synchronizer surroundings store).store.locked = store.locked ∧
      (call.perform synchronizer surroundings store).store =
        (call.requests synchronizer surroundings).foldl (fun store request =>
          (store.serve request).2) store ∧
      ((∀ request ∈ call.requests synchronizer surroundings, (store.serve request).1 = .ok ()) →
        (∀ request ∈ call.requests synchronizer surroundings,
          ∃ guid sharedKey, request = .fetch guid sharedKey) ∧
          (call.perform synchronizer surroundings store).store = store) := by
  have course := call.course synchronizer surroundings store
  rw [← course.store_eq_foldl]
  obtain ⟨unchanged, ⟨untouched, fetches⟩ | ⟨used, request, isIn, refused⟩⟩ :=
    course.of_error failed
  · rw [untouched]
    exact ⟨unchanged, rfl, rfl, rfl, fun _ => ⟨fetches, rfl⟩⟩
  · rw [used]
    exact ⟨unchanged, rfl, rfl, rfl, fun carried => absurd (carried request isIn) refused⟩

end Coffer.Call

namespace Coffer

namespace Toy

/-- A synchronizer that has committed a wallet, with a checksum that is out of date by now. -/
def behind : Synchronizer := ⟨some ⟨.flat "guid" "key" 7, ⟨"00"⟩⟩, some "password", .empty⟩

/-- The store in which that wallet has been replaced since. -/
def ahead : Store := Store.empty.put "guid" ⟨"key", "text", ⟨"01"⟩, "mail", "android", [], 1⟩

def renewal : Call := .replace (.rewrap "other")

/-- Puts a wallet that is not valid in place of the committed one. -/
def spoiling : Call := .replace (.mutate false fun _ _ => .ok (.flat "guid" "key" 0))

end Toy

/-- A save over a record that was replaced in between is refused by the store, and a candidate that
is not valid never gets there. Both leave the committed wallet and the record, the second one also
the failure that is to come. -/
theorem Call.failed_replacement_changes_nothing :
    (Toy.renewal.perform Toy.behind Toy.surroundings Toy.ahead).result =
        .error (.conflict (.checksumMismatch "00")) ∧
      (Toy.renewal.perform Toy.behind Toy.surroundings Toy.ahead).synchronizer = Toy.behind ∧
      (Toy.renewal.perform Toy.behind Toy.surroundings Toy.ahead).store.records =
        Toy.ahead.records ∧
      (Toy.spoiling.perform Toy.behind Toy.surroundings
        (Toy.ahead.failNext .timeout)).synchronizer = Toy.behind ∧
      (Toy.spoiling.perform Toy.behind Toy.surroundings (Toy.ahead.failNext .timeout)).store =
        Toy.ahead.failNext .timeout := by
  have outdated : (Toy.renewal.perform Toy.behind Toy.surroundings Toy.ahead).result =
    .error (.conflict (.checksumMismatch "00")) := rfl
  have ⟨_, invalid⟩ : ∃ cause, (Toy.spoiling.perform Toy.behind Toy.surroundings
    (Toy.ahead.failNext .timeout)).result = .error cause := ⟨_, rfl⟩
  obtain ⟨sameSynchronizer, sameRecords, _⟩ := Call.failed_call_changes_nothing outdated
  obtain ⟨stillSame, _, _, _, locally⟩ := Call.failed_call_changes_nothing invalid
  exact ⟨outdated, sameSynchronizer, sameRecords, stillSame, (locally fun _ isIn => nomatch isIn).2⟩

end Coffer
