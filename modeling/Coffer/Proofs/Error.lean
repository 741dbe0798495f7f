import Coffer.Error
/-!
# Steps that may fail

A chain of steps succeeds when each of its steps does, and fails with the first step that fails. So
does a step that is taken for each item of a list.
-/

namespace Coffer

variable {ε α β : Type}

@[simp] theorem bind_ok (value : α) (next : α → Except ε β) :
    (Except.ok value >>= next) = next value := rfl

@[simp] theorem bind_error (cause : ε) (next : α → Except ε β) :
    (Except.error cause >>= next) = .error cause := rfl

@[simp] theorem throw_eq_error (cause : ε) : (throw cause : Except ε α) = .error cause := rfl

@[simp] theorem pure_eq_ok (value : α) : (pure value : Except ε α) = .ok value := rfl

theorem bind_eq_ok {first : Except ε α} {next : α → Except ε β} {result : β} :
    (first >>= next) = .ok result ↔ ∃ value, first = .ok value ∧ next value = .ok result := by
  cases first with
  | error cause => simp
  | ok value => simp

theorem bind_eq_error {first : Except ε α} {next : α → Except ε β} {cause : ε} :
    (first >>= next) = .error cause ↔
      first = .error cause ∨ ∃ value, first = .ok value ∧ next value = .error cause := by
  cases first with
  | error other => simp
  | ok value => simp

@[simp] theorem liftError_ok (wrap : ε → WalletError) (value : α) :
    liftError wrap (.ok value) = .ok value := rfl

@[simp] theorem liftError_error (wrap : ε → WalletError) (cause : ε) :
    liftError wrap (.error cause : Except ε α) = .error (wrap cause) := rfl

theorem liftError_eq_ok {wrap : ε → WalletError} {attempt : Except ε α} {value : α} :
    liftError wrap attempt = .ok value ↔ attempt = .ok value := by
  cases attempt with
  | error cause => simp [liftError]
  | ok result => simp [liftError]

@[simp] theorem orFail_some (cause : ε) (value : α) : orFail cause (some value) = .ok value := rfl

@[simp] theorem orFail_none (cause : ε) : orFail cause (none : Option α) = .error cause := rfl

theorem orFail_eq_ok {cause : ε} {found : Option α} {value : α} :
    orFail cause found = .ok value ↔ found = some value := by
  cases found <;> simp

theorem orFail_eq_error {cause other : ε} {found : Option α} :
    orFail cause found = .error other ↔ found = none ∧ cause = other := by
  cases found <;> simp

@[simp] theorem map_ok (value : α) (finish : α → β) :
    (Except.ok value : Except ε α).map finish = .ok (finish value) := rfl

@[simp] theorem map_error (cause : ε) (finish : α → β) :
    (Except.error cause : Except ε α).map finish = .error cause := rfl

theorem map_eq_ok {attempt : Except ε α} {finish : α → β} {result : β} :
    attempt.map finish = .ok result ↔ ∃ value, attempt = .ok value ∧ finish value = result := by
  cases attempt with
  | error cause => simp [Except.map]
  | ok value => simp [Except.map]

theorem toOption_eq_some {attempt : Except ε α} {value : α} : attempt.toOption = some value ↔
    attempt = .ok value := by
  cases attempt <;> simp [Except.toOption]

theorem exists_of_isOk {attempt : Except ε α} (succeeds : attempt.isOk = true) :
    ∃ value, attempt = .ok value := by
  cases attempt with
  | error cause => cases succeeds
  | ok value => exact ⟨value, rfl⟩

theorem exists_error {attempt : Except ε α} (fails : ∀ value, attempt ≠ .ok value) :
    ∃ cause, attempt = .error cause := by
  cases attempt with
  | error cause => exact ⟨cause, rfl⟩
  | ok value => exact absurd rfl (fails value)

/-- Attempts with the same results after `finish` succeed together, with values that finish
alike. -/
theorem succeed_together {attempt other : Except ε α} {finish : α → β}
    (same : ∀ result, attempt.map finish = .ok result ↔ other.map finish = .ok result) :
    ((∃ value, attempt = .ok value) ↔ ∃ value, other = .ok value) ∧
      ∀ value counterpart, attempt = .ok value → other = .ok counterpart →
        finish value = finish counterpart := by
  have alike : ∀ value counterpart, attempt = .ok value → other = .ok counterpart →
      finish value = finish counterpart := by
    rintro value counterpart rfl rfl
    exact (Except.ok.inj ((same (finish value)).mp rfl)).symm
  refine ⟨⟨?_, ?_⟩, alike⟩
  · rintro ⟨value, rfl⟩
    obtain ⟨counterpart, isOther, _⟩ := map_eq_ok.mp ((same (finish value)).mp rfl)
    exact ⟨counterpart, isOther⟩
  · rintro ⟨counterpart, rfl⟩
    obtain ⟨value, isAttempt, _⟩ := map_eq_ok.mp ((same (finish counterpart)).mpr rfl)
    exact ⟨value, isAttempt⟩

theorem liftError_eq_error {wrap : ε → WalletError} {attempt : Except ε α} {cause : WalletError} :
    liftError wrap attempt = .error cause ↔ ∃ reason, attempt = .error reason ∧
      wrap reason = cause := by
  cases attempt <;> simp

/-- A step that succeeds on the items with some property, where it is a function, is taken for a
whole list. -/
theorem mapM_eq_ok {step : α → Except ε β} {accepts : α → Prop} {becomes : α → β} {items : List α}
    {results : List β} (each : ∀ item result, step item = .ok result ↔
      accepts item ∧ result = becomes item) :
    items.mapM step = .ok results ↔ (∀ item ∈ items, accepts item) ∧
      results = items.map becomes := by
  induction items generalizing results with
  | nil => simp [eq_comm]
  | cons item others ih =>
    simp only [List.mapM_cons, bind_eq_ok, pure_eq_ok, Except.ok.injEq, each, ih,
      List.forall_mem_cons, List.map_cons]
    constructor
    · rintro ⟨_, ⟨accepted, rfl⟩, _, ⟨rest, rfl⟩, rfl⟩
      exact ⟨⟨accepted, rest⟩, rfl⟩
    · rintro ⟨⟨accepted, rest⟩, rfl⟩
      exact ⟨_, ⟨accepted, rfl⟩, _, ⟨rest, rfl⟩, rfl⟩

/-- Where a step on changed items is a step on the items themselves with its result changed, so it
is for lists. -/
theorem mapM_map {γ δ : Type} {items : List α} {step : α → Except ε β} {later : γ → Except ε δ}
    {before : α → γ} {after : β → δ}
    (each : ∀ item ∈ items, later (before item) = (step item).map after) :
    (items.map before).mapM later = (items.mapM step).map (List.map after) := by
  induction items with
  | nil => rfl
  | cons item others ih =>
    have rest := ih fun other isIn => each other (List.mem_cons_of_mem _ isIn)
    rw [List.map_cons, List.mapM_cons, List.mapM_cons, each item List.mem_cons_self, rest]
    cases step item with
    | error cause => rfl
    | ok result => cases others.mapM step <;> rfl

theorem mem_of_mapM {step : α → Except ε β} {items : List α} {results : List β}
    (taken : items.mapM step = .ok results) {result : β} (isIn : result ∈ results) :
    ∃ item ∈ items, step item = .ok result := by
  induction items generalizing results with
  | nil =>
    cases taken
    cases isIn
  | cons item others ih =>
    simp only [List.mapM_cons, bind_eq_ok, pure_eq_ok, Except.ok.injEq] at taken
    obtain ⟨first, own, rest, taken, rfl⟩ := taken
    rcases List.mem_cons.mp isIn with rfl | later
    · exact ⟨item, List.mem_cons_self, own⟩
    · obtain ⟨other, isOther, made⟩ := ih taken later
      exact ⟨other, List.mem_cons_of_mem _ isOther, made⟩

theorem findM?_eq_none {step : α → Except ε Bool} {items : List α} :
    items.findM? step = .ok none ↔ ∀ item ∈ items, step item = .ok false := by
  induction items with
  | nil => simp
  | cons item others ih =>
    rw [List.findM?, List.forall_mem_cons, ← ih, bind_eq_ok]
    cases step item with
    | error cause => simp
    | ok found => cases found <;> simp

theorem exists_error_of_findM? {step : α → Except ε Bool} {items : List α} {cause : ε}
    (failed : items.findM? step = .error cause) : ∃ item ∈ items, step item = .error cause := by
  induction items with
  | nil => cases failed
  | cons item others ih =>
    rw [List.findM?] at failed
    rcases bind_eq_error.mp failed with own | ⟨found, _, later⟩
    · exact ⟨item, List.mem_cons_self, own⟩
    · cases found with
      | true => cases later
      | false =>
        obtain ⟨other, isIn, own⟩ := ih later
        exact ⟨other, List.mem_cons_of_mem _ isIn, own⟩

end Coffer
