import Coffer.Allocator
import Coffer.Proofs.Error
/-!
# Free indexes and reservations

The index that is handed out is the first one from the counter on that is not reserved. Reports of
use only move counters forward, and taking over the labels of accounts only changes reservations:
each chain ends up with the labels of the account that it belongs to, as long as no two accounts
share a chain. Chains that belong to no account are left alone.
-/

namespace Coffer

namespace IndexState

variable {entries : List (UInt32 × String)} {index found : UInt32} {state : IndexState}

theorem lookup_of_above (above : ∀ entry ∈ entries, index < entry.1) :
    SortedMap.lookup index entries = none := by
  induction entries with
  | nil => rfl
  | cons first later ih =>
    have differs : index ≠ first.1 := UInt32.ne_of_lt (above first List.mem_cons_self)
    rw [SortedMap.lookup, if_neg differs, ih fun entry isIn =>
      above entry (List.mem_cons_of_mem _ isIn)]

theorem toNat_add_one (notLast : index ≠ 0xffffffff) : (index + 1).toNat = index.toNat + 1 := by
  have bounded := index.toNat_lt
  have differs : index.toNat ≠ 0xffffffff := fun same => notLast (UInt32.toNat_inj.mp same)
  rw [UInt32.toNat_add, Nat.mod_eq_of_lt (by simp; omega)]
  rfl

/-- The first index from a start on that is free among entries. -/
structure IsFirst (entries : List (UInt32 × String)) (index found : UInt32) : Prop where
  atLeast : index ≤ found
  isFree : SortedMap.lookup found entries = none
  passes : ∀ passed, index ≤ passed → passed < found →
    (SortedMap.lookup passed entries).isSome = true

namespace IsFirst

variable {key : UInt32} {label : String} {later : List (UInt32 × String)}

theorem of_free (isFree : SortedMap.lookup index entries = none) : IsFirst entries index index where
  atLeast := UInt32.le_refl _
  isFree := isFree
  passes := fun _ atLeast below => absurd below (UInt32.not_lt.mpr atLeast)

theorem of_before (first : IsFirst later index found) (before : key < index) :
    IsFirst ((key, label) :: later) index found := by
  have differs {passed : UInt32} (reached : index ≤ passed) : passed ≠ key := by
    rintro rfl
    exact UInt32.not_lt.mpr reached before
  refine ⟨first.atLeast, ?_, fun passed reached below => ?_⟩
  · rw [SortedMap.lookup, if_neg (differs first.atLeast)]
    exact first.isFree
  · rw [SortedMap.lookup, if_neg (differs reached)]
    exact first.passes passed reached below

theorem of_reserved (first : IsFirst later (key + 1) found) (notLast : key ≠ 0xffffffff) :
    IsFirst ((key, label) :: later) key found := by
  have further := UInt32.le_iff_toNat_le.mp first.atLeast
  rw [toNat_add_one notLast] at further
  have differs : found ≠ key := by
    rintro rfl
    omega
  refine ⟨UInt32.le_iff_toNat_le.mpr (by omega), ?_, fun passed reached below => ?_⟩
  · rw [SortedMap.lookup, if_neg differs]
    exact first.isFree
  · rw [SortedMap.lookup]
    split
    · rfl
    · rename_i isOther
      refine first.passes passed (UInt32.le_iff_toNat_le.mpr ?_) below
      have atLeast := UInt32.le_iff_toNat_le.mp reached
      have differs : passed.toNat ≠ key.toNat := fun same => isOther (UInt32.toNat_inj.mp same)
      rw [toNat_add_one notLast]
      omega

end IsFirst

theorem firstFreeFrom_eq_some (sorted : entries.Pairwise (·.1 < ·.1))
    (isFound : firstFreeFrom index entries = some found) :
    IsFirst entries index found := by
  induction entries generalizing index with
  | nil =>
    cases isFound
    exact .of_free rfl
  | cons first later ih =>
    obtain ⟨key, label⟩ := first
    obtain ⟨above, sorted⟩ := List.pairwise_cons.mp sorted
    simp only [firstFreeFrom] at isFound
    split at isFound
    · rename_i before
      exact (ih sorted isFound).of_before before
    · rename_i notBefore
      split at isFound
      · rename_i isReserved
        subst isReserved
        split at isFound
        · cases isFound
        · rename_i notLast
          exact (ih sorted isFound).of_reserved notLast
      · rename_i isOther
        have less : index < key := SortedKey.connected notBefore isOther
        cases isFound
        refine .of_free ?_
        rw [SortedMap.lookup, if_neg (UInt32.ne_of_lt less)]
        exact lookup_of_above fun entry isIn => UInt32.lt_trans less (above entry isIn)

theorem firstFreeFrom_eq_none (isNone : firstFreeFrom index entries = none) {passed : UInt32}
    (reached : index ≤ passed) : (SortedMap.lookup passed entries).isSome = true := by
  induction entries generalizing index with
  | nil => cases isNone
  | cons first later ih =>
    obtain ⟨key, label⟩ := first
    simp only [firstFreeFrom] at isNone
    rw [SortedMap.lookup]
    split
    · rfl
    · rename_i differs
      split at isNone
      · exact ih isNone reached
      · split at isNone
        · rename_i isReserved
          subst isReserved
          have differs : passed.toNat ≠ key.toNat := fun same => differs (UInt32.toNat_inj.mp same)
          have reached := UInt32.le_iff_toNat_le.mp reached
          split at isNone
          · rename_i isLast
            subst isLast
            have bounded := passed.toNat_lt
            have last : (0xffffffff : UInt32).toNat = 0xffffffff := rfl
            omega
          · rename_i notLast
            refine ih isNone (UInt32.le_iff_toNat_le.mpr ?_)
            rw [toNat_add_one notLast]
            omega
        · cases isNone

theorem IsFirst.unique {other : UInt32} (first : IsFirst entries index found)
    (second : IsFirst entries index other) : found = other := by
  have notBelow {least greater : UInt32} (first : IsFirst entries index least)
      (second : IsFirst entries index greater) : ¬ least < greater := by
    intro below
    have isTaken := second.passes least first.atLeast below
    rw [first.isFree] at isTaken
    cases isTaken
  exact UInt32.le_antisymm (UInt32.not_lt.mp (notBelow second first))
    (UInt32.not_lt.mp (notBelow first second))

/-- What is computed is the least free index from the counter on, where there is one. -/
theorem firstFree?_eq_some :
    state.firstFree? = some found ↔ IsFirst state.reserved.entries state.nextReceive found := by
  constructor
  · exact firstFreeFrom_eq_some state.reserved.sorted
  · intro first
    cases search : state.firstFree? with
    | none =>
      have isTaken := firstFreeFrom_eq_none search first.atLeast
      rw [first.isFree] at isTaken
      cases isTaken
    | some other => rw [(firstFreeFrom_eq_some state.reserved.sorted search).unique first]

theorem firstFree?_of_free (isFree : state.reserved.find? state.nextReceive = none) :
    state.firstFree? = some state.nextReceive :=
  firstFree?_eq_some.mpr (.of_free isFree)

theorem firstFree?_eq_none : state.firstFree? = none ↔
    ∀ index, state.nextReceive ≤ index → (state.reserved.find? index).isSome = true := by
  constructor
  · exact fun isNone _ reached => firstFreeFrom_eq_none isNone reached
  · intro isFull
    cases search : state.firstFree? with
    | none => rfl
    | some found =>
      have first := firstFree?_eq_some.mp search
      have isTaken := isFull found first.atLeast
      rw [SortedMap.find?, first.isFree] at isTaken
      cases isTaken

theorem firstFree?_congr {other : IndexState} (counter : state.nextReceive = other.nextReceive)
    (reserved : state.reserved = other.reserved) : state.firstFree? = other.firstFree? := by
  rw [firstFree?, firstFree?, counter, reserved]

/-- An index that is handed out later is a later one, if counters moved forward and everything that
was reserved still is, the earlier index included. -/
theorem firstFree?_lt {later : IndexState} {next : UInt32} (isFirst : state.firstFree? = some found)
    (isNext : later.firstFree? = some next) (forward : state.nextReceive ≤ later.nextReceive)
    (reserves : ∀ index, (state.reserved.find? index).isSome = true →
      (later.reserved.find? index).isSome = true)
    (reservesOwn : (later.reserved.find? found).isSome = true) : found < next := by
  have first := firstFree?_eq_some.mp isFirst
  have second := firstFree?_eq_some.mp isNext
  apply UInt32.not_le.mp
  intro atMost
  have isTaken : (later.reserved.find? next).isSome = true := by
    by_cases same : next = found
    · rw [same]
      exact reservesOwn
    · have below : next < found := UInt32.lt_of_le_of_ne atMost same
      exact reserves _ (first.passes _ (UInt32.le_trans forward second.atLeast) below)
  rw [SortedMap.find?, second.isFree] at isTaken
  cases isTaken

end IndexState

namespace Allocator

variable {allocator later : Allocator} {xpub : String} {scheme : Scheme}

theorem nextFree_eq_ok {index : UInt32} :
    allocator.nextFree xpub scheme = .ok index ↔
      (allocator.state xpub scheme).firstFree? = some index :=
  orFail_eq_ok

theorem nextFree_eq_error {cause : WalletError} : allocator.nextFree xpub scheme = .error cause ↔
    (allocator.state xpub scheme).firstFree? = none ∧ .endless = cause :=
  orFail_eq_error

theorem nextFree_of_free {index : UInt32}
    (atStart : (allocator.state xpub scheme).nextReceive = index)
    (isFree : (allocator.state xpub scheme).reserved.find? index = none) :
    allocator.nextFree xpub scheme = .ok index := by
  subst atStart
  exact nextFree_eq_ok.mpr (IndexState.firstFree?_of_free isFree)

theorem exists_nextFree (isFree : (allocator.state xpub scheme).reserved.find? 0xffffffff = none) :
    ∃ index, allocator.nextFree xpub scheme = .ok index := by
  cases search : allocator.nextFree xpub scheme with
  | ok index => exact ⟨index, rfl⟩
  | error cause =>
    have atMost : (allocator.state xpub scheme).nextReceive ≤ 0xffffffff :=
      UInt32.le_iff_toNat_le.mpr (Nat.le_of_lt_succ (UInt32.toNat_lt _))
    have isTaken := IndexState.firstFree?_eq_none.mp (nextFree_eq_error.mp search).1 _ atMost
    rw [isFree] at isTaken
    cases isTaken

theorem nextFree_congr {otherXpub : String} {otherScheme : Scheme}
    (counter : (allocator.state xpub scheme).nextReceive =
      (later.state otherXpub otherScheme).nextReceive)
    (reserved : (allocator.state xpub scheme).reserved =
      (later.state otherXpub otherScheme).reserved) :
    allocator.nextFree xpub scheme = later.nextFree otherXpub otherScheme :=
  congrArg (orFail WalletError.endless) (IndexState.firstFree?_congr counter reserved)

theorem nextFree_of_fresh (fresh : allocator.state xpub scheme = .fresh) :
    allocator.nextFree xpub scheme = .ok 0 := by
  rw [nextFree, fresh]
  rfl

/-! ## Counters -/

/-- Reservations stayed, and receive counters moved forward if at all. -/
def Forward (allocator later : Allocator) : Prop :=
  ∀ xpub scheme, (later.state xpub scheme).reserved = (allocator.state xpub scheme).reserved ∧
    (allocator.state xpub scheme).nextReceive ≤ (later.state xpub scheme).nextReceive

theorem Forward.refl (allocator : Allocator) : allocator.Forward allocator :=
  fun _ _ => ⟨rfl, UInt32.le_refl _⟩

theorem Forward.trans {middle : Allocator} (first : allocator.Forward middle)
    (second : middle.Forward later) : allocator.Forward later := fun xpub scheme =>
  ⟨(second xpub scheme).1.trans (first xpub scheme).1, UInt32.le_trans (first xpub scheme).2
    (second xpub scheme).2⟩

theorem forward_modify {change : IndexState → IndexState}
    (moves : ∀ state, (change state).reserved = state.reserved ∧
      state.nextReceive ≤ (change state).nextReceive) :
    allocator.Forward (allocator.modify xpub scheme change) := by
  intro wanted other
  rw [state_modify]
  split
  · rename_i isOwn
    obtain ⟨rfl, rfl⟩ := isOwn
    exact moves _
  · exact ⟨rfl, UInt32.le_refl _⟩

theorem le_max (left right : UInt32) : left ≤ max left right := by
  show left ≤ if left ≤ right then right else left
  split
  · assumption
  · exact UInt32.le_refl _

theorem forward_advance (chain : Chain) (observed : UInt32) :
    allocator.Forward (allocator.advance xpub scheme chain observed) := by
  refine forward_modify fun state => ?_
  cases chain with
  | receive => exact ⟨rfl, le_max _ _⟩
  | change => exact ⟨rfl, UInt32.le_refl _⟩

theorem state_advance (allocator : Allocator) (xpub : String) (scheme : Scheme) (chain : Chain)
    (observed : UInt32) : (allocator.advance xpub scheme chain observed).state xpub scheme =
      (allocator.state xpub scheme).advance chain observed := by
  rw [advance, state_modify, if_pos ⟨rfl, rfl⟩]

theorem forward_observe (usage : Usage) : allocator.Forward (allocator.observe xpub scheme usage) :=
  forward_modify fun _ => ⟨rfl, le_max _ _⟩

theorem forward_observeReport (report : SortedMap String Usage) (derivations : List Derivation) :
    allocator.Forward (derivations.foldl (observeReport report) allocator) := by
  induction derivations generalizing allocator with
  | nil => exact .refl allocator
  | cons derivation others ih =>
    refine Forward.trans ?_ ih
    unfold observeReport
    split
    · exact forward_observe _
    · exact .refl allocator

end Allocator

/-! ## Reservations -/

namespace Account

/-- What an account reserves on a chain of its own: its labels on the default chain, nothing on
another. -/
def claim? (account : Account) (xpub : String) (scheme : Scheme) :
    Option (SortedMap UInt32 String) :=
  if scheme = account.defaultScheme then
    if account.defaultXpub? = some xpub then some account.addressLabels else none
  else
    if account.derivations.any fun derivation => derivation.xpub = xpub ∧
    derivation.scheme = scheme then some .empty
  else none

theorem claim?_default {account : Account} {xpub : String}
    (hasXpub : account.defaultXpub? = some xpub) :
    account.claim? xpub account.defaultScheme = some account.addressLabels := by
  rw [claim?, if_pos rfl, if_pos hasXpub]

theorem claim?_other {account : Account} {derivation : Derivation}
    (isIn : derivation ∈ account.derivations)
    (isOther : derivation.scheme ≠ account.defaultScheme) :
    account.claim? derivation.xpub derivation.scheme = some .empty := by
  rw [claim?, if_neg isOther, if_pos]
  exact List.any_eq_true.mpr ⟨derivation, isIn, decide_eq_true ⟨rfl, rfl⟩⟩

def Apart (account other : Account) : Prop :=
  ∀ xpub scheme, account.claim? xpub scheme = none ∨ other.claim? xpub scheme = none

theorem derivation_of_claim {account : Account} {xpub : String} {scheme : Scheme}
    {labels : SortedMap UInt32 String} (claimed : account.claim? xpub scheme = some labels) :
    ∃ derivation ∈ account.derivations, derivation.xpub = xpub ∧ derivation.scheme = scheme := by
  unfold claim? at claimed
  split at claimed
  · rename_i isDefault
    split at claimed
    · rename_i hasXpub
      obtain ⟨derivation, found, same⟩ := Option.map_eq_some_iff.mp hasXpub
      have hasScheme := List.find?_some found
      exact ⟨derivation, List.mem_of_find?_eq_some found, same,
        (of_decide_eq_true hasScheme).trans isDefault.symm⟩
    · cases claimed
  · split at claimed
    · rename_i isOwn
      obtain ⟨derivation, isIn, same⟩ := List.any_eq_true.mp isOwn
      exact ⟨derivation, isIn, of_decide_eq_true same⟩
    · cases claimed

end Account

namespace Allocator

variable {allocator : Allocator} {xpub : String} {scheme : Scheme}

theorem state_reserve (allocator : Allocator) (own : String) (ownScheme : Scheme)
    (labels : SortedMap UInt32 String) :
    (allocator.reserve own ownScheme labels).state xpub scheme =
      if xpub = own ∧ scheme = ownScheme then
        { allocator.state xpub scheme with reserved := labels }
      else allocator.state xpub scheme := by
  rw [reserve, state_modify]
  split
  · rename_i isOwn
    obtain ⟨rfl, rfl⟩ := isOwn
    rfl
  · rfl

theorem state_foldl_reserve (allocator : Allocator) (derivations : List Derivation) :
    (derivations.foldl (fun allocator derivation =>
      allocator.reserve derivation.xpub derivation.scheme .empty)
      allocator).state xpub scheme =
      if derivations.any fun derivation => derivation.xpub = xpub ∧ derivation.scheme = scheme then
        { allocator.state xpub scheme with reserved := .empty }
      else allocator.state xpub scheme := by
  induction derivations generalizing allocator with
  | nil => rfl
  | cons derivation others ih =>
    rw [List.foldl_cons, ih, state_reserve, List.any_cons]
    by_cases isOwn : derivation.xpub = xpub ∧ derivation.scheme = scheme
    · simp [isOwn]
    · have differs : ¬ (xpub = derivation.xpub ∧ scheme = derivation.scheme) :=
        fun same => isOwn ⟨same.1.symm, same.2.symm⟩
      simp [isOwn, differs]

theorem state_syncAccount (allocator : Allocator) (account : Account) :
    (allocator.syncAccount account).state xpub scheme =
      { allocator.state xpub scheme with
        reserved := (account.claim? xpub scheme).getD (allocator.state xpub scheme).reserved } := by
  rw [syncAccount, state_foldl_reserve, List.any_filter, Account.claim?]
  by_cases isDefault : scheme = account.defaultScheme
  · subst isDefault
    have noOther : account.derivations.any (fun derivation =>
        decide (derivation.scheme ≠ account.defaultScheme) &&
        decide (derivation.xpub = xpub ∧ derivation.scheme = account.defaultScheme)) = false := by
      simp only [List.any_eq_false, Bool.and_eq_true, decide_eq_true_eq]
      intro derivation _ both
      exact both.1 both.2.2
    rw [noOther]
    cases account.defaultXpub? with
    | none => simp
    | some own =>
      by_cases same : own = xpub
      · simp [state_reserve, same]
      · simp [state_reserve, same, Ne.symm same]
  · have sameOthers : account.derivations.any (fun derivation =>
        decide (derivation.scheme ≠ account.defaultScheme) &&
        decide (derivation.xpub = xpub ∧ derivation.scheme = scheme)) =
        account.derivations.any fun derivation => decide (derivation.xpub = xpub ∧
          derivation.scheme = scheme) := by
      congr 1
      funext derivation
      by_cases isOwn : derivation.xpub = xpub ∧ derivation.scheme = scheme
      · simp [isOwn, isDefault]
      · simp [isOwn]
    rw [sameOthers, if_neg isDefault]
    cases account.defaultXpub? with
    | none => split <;> rfl
    | some own =>
      have kept : (allocator.reserve own account.defaultScheme account.addressLabels).state xpub
          scheme = allocator.state xpub scheme := by
        simp [state_reserve, isDefault]
      rw [kept]
      split <;> rfl

theorem state_foldl_syncAccount {accounts : List Account}
    (unclaimed : ∀ account ∈ accounts, account.claim? xpub scheme = none) :
    (accounts.foldl syncAccount allocator).state xpub scheme = allocator.state xpub scheme := by
  induction accounts generalizing allocator with
  | nil => rfl
  | cons account others ih =>
    rw [List.foldl_cons, ih fun other isIn => unclaimed other (List.mem_cons_of_mem _ isIn),
      state_syncAccount, unclaimed account List.mem_cons_self]
    rfl

theorem nextReceive_foldl_syncAccount (allocator : Allocator) (accounts : List Account) :
    ((accounts.foldl syncAccount allocator).state xpub scheme).nextReceive =
      (allocator.state xpub scheme).nextReceive := by
  induction accounts generalizing allocator with
  | nil => rfl
  | cons account others ih => rw [List.foldl_cons, ih, state_syncAccount]

/-- Once the labels of accounts that share no chain are taken over, each chain has what its account
claims. -/
theorem reserved_foldl_syncAccount {accounts : List Account}
    (apart : accounts.Pairwise Account.Apart) {account : Account}
    (isIn : account ∈ accounts) {labels : SortedMap UInt32 String}
    (claimed : account.claim? xpub scheme = some labels) :
    ((accounts.foldl syncAccount allocator).state xpub scheme).reserved = labels := by
  induction accounts generalizing allocator with
  | nil => cases isIn
  | cons first others ih =>
    obtain ⟨apartFirst, apart⟩ := List.pairwise_cons.mp apart
    rcases List.mem_cons.mp isIn with rfl | later
    · have unclaimed : ∀ other ∈ others, other.claim? xpub scheme = none := fun other isOther =>
        (apartFirst other isOther xpub scheme).resolve_left
          (by rw [claimed]; exact Option.some_ne_none _)
      rw [List.foldl_cons, state_foldl_syncAccount unclaimed, state_syncAccount, claimed]
      rfl
    · exact ih apart later

/-- What is reserved on the chains of the accounts is what the accounts claim. -/
def Reserves (allocator : Allocator) (payload : Payload) : Prop :=
  ∀ account ∈ payload.accounts, ∀ xpub scheme labels, account.claim? xpub scheme = some labels →
    (allocator.state xpub scheme).reserved = labels

theorem reserves_syncLabels (allocator : Allocator) {payload : Payload}
    (apart : payload.accounts.Pairwise Account.Apart) :
    (allocator.syncLabels payload).Reserves payload := fun _ isIn _ _ _ =>
  reserved_foldl_syncAccount apart isIn

theorem Forward.reserves {later : Allocator} {payload : Payload} (forward : allocator.Forward later)
    (reserves : allocator.Reserves payload) : later.Reserves payload := by
  intro account isIn xpub scheme labels claimed
  rw [(forward xpub scheme).1]
  exact reserves account isIn xpub scheme labels claimed

end Allocator

/-! ## Chains that belong to no account -/

/-- The chain of an extended key under a scheme belongs to an account. -/
def Payload.HasChain (payload : Payload) (xpub : String) (scheme : Scheme) : Prop :=
  ∃ account ∈ payload.accounts, ∃ derivation ∈ account.derivations, derivation.xpub = xpub ∧
    derivation.scheme = scheme

namespace Allocator

variable {allocator later : Allocator} {payload next : Payload} {xpub : String} {scheme : Scheme}

def Spares (allocator : Allocator) (payload : Payload) (later : Allocator) : Prop :=
  ∀ xpub scheme, ¬ payload.HasChain xpub scheme →
    later.state xpub scheme = allocator.state xpub scheme

def KnowsOnly (allocator : Allocator) (payload : Payload) : Prop :=
  ∀ xpub scheme, ¬ payload.HasChain xpub scheme → allocator.state xpub scheme = .fresh

theorem Spares.refl (allocator : Allocator) (payload : Payload) :
    allocator.Spares payload allocator :=
  fun _ _ _ => rfl

theorem Spares.trans {middle : Allocator} (first : allocator.Spares payload middle)
    (second : middle.Spares payload later) : allocator.Spares payload later :=
  fun xpub scheme noChain => (second xpub scheme noChain).trans (first xpub scheme noChain)

theorem spares_modify {change : IndexState → IndexState} (hasChain : payload.HasChain xpub scheme) :
    allocator.Spares payload (allocator.modify xpub scheme change) := by
  intro wanted other noChain
  rw [state_modify, if_neg]
  rintro ⟨rfl, rfl⟩
  exact noChain hasChain

theorem spares_observeReport (report : SortedMap String Usage) {derivations : List Derivation}
    (areOwn : ∀ derivation ∈ derivations, payload.HasChain derivation.xpub derivation.scheme) :
    allocator.Spares payload (derivations.foldl (observeReport report) allocator) := by
  induction derivations generalizing allocator with
  | nil => exact .refl allocator payload
  | cons derivation others ih =>
    refine Spares.trans ?_ (ih fun other isIn => areOwn other (List.mem_cons_of_mem _ isIn))
    unfold observeReport
    split
    · exact spares_modify (areOwn derivation List.mem_cons_self)
    · exact .refl allocator payload

theorem spares_syncLabels (allocator : Allocator) (payload : Payload) :
    allocator.Spares payload (allocator.syncLabels payload) := by
  intro xpub scheme noChain
  refine state_foldl_syncAccount fun account isIn => ?_
  cases claimed : account.claim? xpub scheme with
  | none => rfl
  | some labels =>
    obtain ⟨derivation, isOwn, same⟩ := Account.derivation_of_claim claimed
    exact absurd ⟨account, isIn, derivation, isOwn, same⟩ noChain

theorem Spares.knowsOnly (spares : allocator.Spares payload later)
    (knows : allocator.KnowsOnly payload) : later.KnowsOnly payload :=
  fun xpub scheme noChain => (spares xpub scheme noChain).trans (knows xpub scheme noChain)

theorem KnowsOnly.mono (knows : allocator.KnowsOnly payload)
    (kept : ∀ xpub scheme, payload.HasChain xpub scheme → next.HasChain xpub scheme) :
    allocator.KnowsOnly next :=
  fun xpub scheme noChain => knows xpub scheme fun hasChain => noChain (kept xpub scheme hasChain)

theorem knowsOnly_syncLabels (knows : allocator.KnowsOnly payload) :
    (allocator.syncLabels payload).KnowsOnly payload :=
  (allocator.spares_syncLabels payload).knowsOnly knows

theorem state_empty (xpub : String) (scheme : Scheme) : empty.state xpub scheme = .fresh := by
  cases scheme <;> rfl

theorem knowsOnly_empty (payload : Payload) : empty.KnowsOnly payload :=
  fun xpub scheme _ => state_empty xpub scheme

end Allocator

end Coffer
