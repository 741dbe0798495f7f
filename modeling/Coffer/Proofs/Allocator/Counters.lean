import Coffer.Proofs.Allocator
import Coffer.Wallet.Addresses
/-!
# Counters as maxima

Whatever an allocator is told, in whatever order and however often, a counter is the largest value
that was ever reported for its chain. Each operation raises the counters to the largest of what they
were and what it reports; that such raises compose is all that a sequence of operations needs.
-/

namespace Coffer

def Usage.counter (usage : Usage) : Chain → UInt32
  | .receive => usage.receive
  | .change => usage.change

namespace IndexState

theorem counter_observe (state : IndexState) (usage : Usage) (chain : Chain) :
    (state.observe usage).counter chain = max (state.counter chain) (usage.counter chain) := by
  cases chain <;> rfl

theorem counter_advance (state : IndexState) (chain other : Chain) (observed : UInt32) :
    (state.advance chain observed).counter other =
      if other = chain then max (state.counter chain) (satAdd32 observed 1)
        else state.counter other := by
  cases chain <;> cases other <;> rfl

end IndexState

namespace Allocator

/-! ## Sequences of operations -/

/-- The counter of a chain, as a number. -/
def count (allocator : Allocator) (xpub : String) (scheme : Scheme) (chain : Chain) : Nat :=
  ((allocator.state xpub scheme).counter chain).toNat

theorem count_empty (xpub : String) (scheme : Scheme) (chain : Chain) :
    empty.count xpub scheme chain = 0 := by
  rw [count, state_empty]
  cases chain <;> rfl

/-- What an allocator can be told. -/
inductive Event where
  | advance (xpub : String) (scheme : Scheme) (chain : Chain) (observed : UInt32)
  | observe (xpub : String) (scheme : Scheme) (usage : Usage)
  | rebuild (payload : Payload) (report : SortedMap String Usage)
  | syncLabels (payload : Payload)

def tell (allocator : Allocator) : Event → Allocator
  | .advance xpub scheme chain observed => allocator.advance xpub scheme chain observed
  | .observe xpub scheme usage => allocator.observe xpub scheme usage
  | .rebuild payload report => allocator.rebuild payload report
  | .syncLabels payload => allocator.syncLabels payload

/-- The allocator that was told of events only, in their order. -/
def after (events : List Event) : Allocator := events.foldl tell empty

/-- A value that an event reports for the counter of a chain. An index that was seen reports the one
after it, up to the largest word; labels report nothing. -/
inductive Event.Reports : Event → String → Scheme → Chain → Nat → Prop where
  | advanced (xpub : String) (scheme : Scheme) (chain : Chain) (observed : UInt32) :
      Reports (.advance xpub scheme chain observed) xpub scheme chain
      (min (observed.toNat + 1) (UInt32.size - 1))
  | observed (xpub : String) (scheme : Scheme) (usage : Usage) (chain : Chain) :
      Reports (.observe xpub scheme usage) xpub scheme chain (usage.counter chain).toNat
  | rebuilt {payload : Payload} {report : SortedMap String Usage} {account : Account}
      {derivation : Derivation} {usage : Usage} (isIn : account ∈ payload.accounts)
      (isOwn : derivation ∈ account.derivations)
      (isTold : report.find? derivation.xpub = some usage) (chain : Chain) :
      Reports (.rebuild payload report) derivation.xpub derivation.scheme chain
      (usage.counter chain).toNat

/-! ## Raised counters -/

/-- The largest of the values that are reported, or 0 where there are none. -/
structure IsLargest (reported : Nat → Prop) (largest : Nat) : Prop where
  isReported : largest = 0 ∨ reported largest
  isBound : ∀ value, reported value → value ≤ largest

theorem IsLargest.unique {reported : Nat → Prop} {largest other : Nat}
    (isLargest : IsLargest reported largest) (isOther : IsLargest reported other) :
    largest = other := by
  apply Nat.le_antisymm
  · rcases isLargest.isReported with rfl | isReported
    · exact Nat.zero_le _
    · exact isOther.isBound _ isReported
  · rcases isOther.isReported with rfl | isReported
    · exact Nat.zero_le _
    · exact isLargest.isBound _ isReported

/-- Every counter became the largest of what it was and of what was reported for it. -/
structure Raises (allocator : Allocator) (reported : String → Scheme → Chain → Nat → Prop)
    (later : Allocator) : Prop where
  forward : ∀ xpub scheme chain, allocator.count xpub scheme chain ≤ later.count xpub scheme chain
  reaches : ∀ {xpub scheme chain value}, reported xpub scheme chain value →
    value ≤ later.count xpub scheme chain
  isTold : ∀ xpub scheme chain, later.count xpub scheme chain = allocator.count xpub scheme chain ∨
    reported xpub scheme chain (later.count xpub scheme chain)

namespace Raises

variable {allocator middle later : Allocator} {reported further : String → Scheme →
  Chain → Nat → Prop}

theorem of_same
    (same : ∀ xpub scheme chain,
      later.count xpub scheme chain = allocator.count xpub scheme chain)
    (isSilent : ∀ xpub scheme chain value, ¬ reported xpub scheme chain value) :
    allocator.Raises reported later where
  forward := fun xpub scheme chain => Nat.le_of_eq (same xpub scheme chain).symm
  reaches := fun isReported => absurd isReported (isSilent _ _ _ _)
  isTold := fun xpub scheme chain => .inl (same xpub scheme chain)

theorem trans (first : allocator.Raises reported middle) (second : middle.Raises further later) :
    allocator.Raises (fun xpub scheme chain value => reported xpub scheme chain value ∨
      further xpub scheme chain value) later where
  forward :=
    fun xpub scheme chain =>
    Nat.le_trans (first.forward xpub scheme chain) (second.forward xpub scheme chain)
  reaches := by
    rintro xpub scheme chain value (isReported | isFurther)
    · exact Nat.le_trans (first.reaches isReported) (second.forward xpub scheme chain)
    · exact second.reaches isFurther
  isTold := by
    intro xpub scheme chain
    rcases second.isTold xpub scheme chain with same | isFurther
    · rw [same]
      exact (first.isTold xpub scheme chain).imp_right .inl
    · exact .inr (.inr isFurther)

theorem congr (raises : allocator.Raises reported later)
    (same : ∀ xpub scheme chain value, reported xpub scheme chain value ↔
      further xpub scheme chain value) :
    allocator.Raises further later where
  forward := raises.forward
  reaches := fun isReported => raises.reaches ((same _ _ _ _).mpr isReported)
  isTold := fun xpub scheme chain => (raises.isTold xpub scheme chain).imp_right (same _ _ _ _).mp

theorem count_eq (raises : allocator.Raises reported later) {xpub : String} {scheme : Scheme}
    {chain : Chain} (isSilent : ∀ value, ¬ reported xpub scheme chain value) :
    later.count xpub scheme chain = allocator.count xpub scheme chain :=
  (raises.isTold xpub scheme chain).resolve_right (isSilent _)

theorem isLargest (raises : empty.Raises reported later) (xpub : String) (scheme : Scheme)
    (chain : Chain) : IsLargest (reported xpub scheme chain) (later.count xpub scheme chain) := by
  constructor
  · have isTold := raises.isTold xpub scheme chain
    rwa [count_empty] at isTold
  · intro value isReported
    exact raises.reaches isReported

end Raises

/-! ## One operation -/

theorem toNat_max (left right : UInt32) : (max left right).toNat = max left.toNat right.toNat := by
  change (if left ≤ right then right else left).toNat = _
  simp only [Nat.max_def, UInt32.le_iff_toNat_le]
  split <;> rfl

section

variable {allocator : Allocator}

theorem raises_modify {own : String} {ownScheme : Scheme} {change : IndexState → IndexState}
    {told : Chain → Nat → Prop}
    (forward : ∀ (state : IndexState) chain, (state.counter chain).toNat ≤
      ((change state).counter chain).toNat)
    (reaches : ∀ (state : IndexState) chain value, told chain value →
      value ≤ ((change state).counter chain).toNat)
    (isTold : ∀ (state : IndexState) chain, ((change state).counter chain).toNat =
      (state.counter chain).toNat ∨ told chain ((change state).counter chain).toNat) :
    allocator.Raises (fun xpub scheme chain value => (own = xpub ∧ ownScheme = scheme) ∧
      told chain value) (allocator.modify own ownScheme change) where
  forward := by
    intro xpub scheme chain
    rw [count, count, state_modify]
    split
    · rename_i isOwn
      obtain ⟨rfl, rfl⟩ := isOwn
      exact forward _ chain
    · exact Nat.le_refl _
  reaches := by
    rintro xpub scheme chain value ⟨⟨rfl, rfl⟩, isReported⟩
    rw [count, state_modify, if_pos ⟨rfl, rfl⟩]
    exact reaches _ chain value isReported
  isTold := by
    intro xpub scheme chain
    rw [count, count, state_modify]
    split
    · rename_i isOwn
      obtain ⟨rfl, rfl⟩ := isOwn
      exact (isTold _ chain).imp_right fun isReported => ⟨⟨rfl, rfl⟩, isReported⟩
    · exact .inl rfl

theorem raises_observe (xpub : String) (scheme : Scheme) (usage : Usage) :
    allocator.Raises
      (fun own ownScheme chain value => (xpub = own ∧ scheme = ownScheme) ∧
        value = (usage.counter chain).toNat)
      (allocator.observe xpub scheme usage) := by
  refine raises_modify (fun state chain => ?_) (fun state chain value => ?_) fun state chain => ?_
  · rw [IndexState.counter_observe, toNat_max]
    exact Nat.le_max_left _ _
  · rintro rfl
    rw [IndexState.counter_observe, toNat_max]
    exact Nat.le_max_right _ _
  · rw [IndexState.counter_observe, toNat_max]
    omega

theorem raises_advance (xpub : String) (scheme : Scheme) (chain : Chain) (observed : UInt32) :
    allocator.Raises (Event.advance xpub scheme chain observed).Reports
      (allocator.advance xpub scheme chain observed) := by
  have raises : allocator.Raises
      (fun own ownScheme ownChain value =>
        (xpub = own ∧ scheme = ownScheme) ∧ chain = ownChain ∧ value = (satAdd32 observed 1).toNat)
      (allocator.advance xpub scheme chain observed) := by
    refine raises_modify (fun state other => ?_) (fun state other value => ?_) fun state other => ?_
    · rw [IndexState.counter_advance]
      split
      · rename_i isOwn
        rw [isOwn, toNat_max]
        exact Nat.le_max_left _ _
      · exact Nat.le_refl _
    · rintro ⟨rfl, rfl⟩
      rw [IndexState.counter_advance, if_pos rfl, toNat_max]
      exact Nat.le_max_right _ _
    · rw [IndexState.counter_advance]
      split
      · rename_i isOwn
        subst isOwn
        rw [toNat_max, eq_self, true_and]
        omega
      · exact .inl rfl
  refine raises.congr fun own ownScheme ownChain value => ⟨?_, ?_⟩
  · rintro ⟨⟨rfl, rfl⟩, rfl, rfl⟩
    rw [toNat_satAdd32]
    exact .advanced ..
  · rintro ⟨⟩
    exact ⟨⟨rfl, rfl⟩, rfl, (toNat_satAdd32 observed 1).symm⟩

theorem raises_observeReport (report : SortedMap String Usage) (derivations : List Derivation) :
    allocator.Raises
      (fun xpub scheme chain value => ∃ derivation ∈ derivations, ∃ usage,
        report.find? derivation.xpub = some usage ∧
        (derivation.xpub = xpub ∧ derivation.scheme = scheme) ∧ value = (usage.counter chain).toNat)
      (derivations.foldl (observeReport report) allocator) := by
  induction derivations generalizing allocator with
  | nil =>
    refine .of_same (fun _ _ _ => rfl) fun xpub scheme chain value => ?_
    rintro ⟨derivation, isIn, _⟩
    cases isIn
  | cons derivation others ih =>
    rw [List.foldl_cons]
    cases found : report.find? derivation.xpub with
    | none =>
      have ignored : observeReport report allocator derivation = allocator := by
        rw [observeReport, found]
      rw [ignored]
      refine ih.congr fun xpub scheme chain value => ⟨?_, ?_⟩
      · rintro ⟨other, isIn, isReported⟩
        exact ⟨other, List.mem_cons_of_mem _ isIn, isReported⟩
      · rintro ⟨other, isIn, usage, isTold, isReported⟩
        rcases List.mem_cons.mp isIn with rfl | isIn
        · rw [found] at isTold
          cases isTold
        · exact ⟨other, isIn, usage, isTold, isReported⟩
    | some usage =>
      have observed : observeReport report allocator derivation =
          allocator.observe derivation.xpub derivation.scheme usage := by
        rw [observeReport, found]
      rw [observed]
      refine ((raises_observe derivation.xpub derivation.scheme usage).trans ih).congr
        fun xpub scheme chain value => ⟨?_, ?_⟩
      · rintro (isReported | ⟨other, isIn, isReported⟩)
        · exact ⟨derivation, List.mem_cons_self, usage, found, isReported⟩
        · exact ⟨other, List.mem_cons_of_mem _ isIn, isReported⟩
      · rintro ⟨other, isIn, told, isTold, isReported⟩
        rcases List.mem_cons.mp isIn with rfl | isIn
        · rw [found] at isTold
          cases isTold
          exact .inl isReported
        · exact .inr ⟨other, isIn, told, isTold, isReported⟩

theorem count_syncLabels (payload : Payload) (xpub : String) (scheme : Scheme) (chain : Chain) :
    (allocator.syncLabels payload).count xpub scheme chain = allocator.count xpub scheme chain := by
  unfold syncLabels
  induction payload.accounts generalizing allocator with
  | nil => rfl
  | cons account others ih =>
    rw [List.foldl_cons, ih, count, state_syncAccount]
    cases chain <;> rfl

theorem raises_syncLabels (payload : Payload) :
    allocator.Raises (Event.syncLabels payload).Reports (allocator.syncLabels payload) :=
  .of_same (count_syncLabels payload) fun _ _ _ _ isReported => nomatch isReported

theorem raises_rebuild (payload : Payload) (report : SortedMap String Usage) :
    allocator.Raises (Event.rebuild payload report).Reports (allocator.rebuild payload report) := by
  have observed : allocator.Raises _ _ :=
    raises_observeReport report (payload.accounts.flatMap Account.derivations)
  refine (observed.trans (raises_syncLabels payload)).congr fun xpub scheme chain value => ⟨?_, ?_⟩
  · rintro (⟨derivation, isIn, usage, isTold, ⟨rfl, rfl⟩, rfl⟩ | isReported)
    · obtain ⟨account, isIn, isOwn⟩ := List.mem_flatMap.mp isIn
      exact .rebuilt isIn isOwn isTold chain
    · cases isReported
  · intro isReported
    cases isReported with
    | rebuilt isIn isOwn isTold =>
      exact .inl ⟨_, List.mem_flatMap.mpr ⟨_, isIn, isOwn⟩, _, isTold, ⟨rfl, rfl⟩, rfl⟩

theorem raises_tell (event : Event) : allocator.Raises event.Reports (allocator.tell event) := by
  cases event with
  | advance xpub scheme chain observed => exact raises_advance xpub scheme chain observed
  | observe xpub scheme usage =>
    refine (raises_observe xpub scheme usage).congr fun own ownScheme chain value => ⟨?_, ?_⟩
    · rintro ⟨⟨rfl, rfl⟩, rfl⟩
      exact .observed ..
    · rintro ⟨⟩
      exact ⟨⟨rfl, rfl⟩, rfl⟩
  | rebuild payload report => exact raises_rebuild payload report
  | syncLabels payload => exact raises_syncLabels payload

theorem raises_run (events : List Event) :
    allocator.Raises (fun xpub scheme chain value => ∃ event ∈ events,
      event.Reports xpub scheme chain value) (events.foldl tell allocator) := by
  induction events generalizing allocator with
  | nil =>
    refine .of_same (fun _ _ _ => rfl) fun xpub scheme chain value => ?_
    rintro ⟨event, isIn, _⟩
    cases isIn
  | cons event others ih =>
    refine ((raises_tell event).trans ih).congr fun xpub scheme chain value => ?_
    simp only [List.mem_cons, exists_eq_or_imp]

end

/-! ## Any sequence of operations -/

theorem after_append (events : List Event) (event : Event) :
    after (events ++ [event]) = (after events).tell event :=
  List.foldl_append

theorem count_advanceChain {wallet : Wallet} {events : List Event}
    (isAfter : wallet.synchronizer.allocator = after events)
    (xpub : String) (scheme : Scheme) (chain : Chain) (observed : UInt32) :
    (wallet.advanceChain xpub scheme chain observed).1.toNat =
      (after (events ++ [.advance xpub scheme chain observed])).count xpub scheme chain := by
  rw [after_append, ← isAfter]
  rfl

/-- After any sequence of events the counter of a chain is the largest value that one of them
reported for it, or 0 if none did. So it is the same in whatever order they came, no event lowers
it, an event that reports nothing for the chain leaves it as it is, and recording an index in use
tells the counter that results. -/
theorem counter_is_largest_report (events : List Event) (xpub : String) (scheme : Scheme)
    (chain : Chain) :
    IsLargest (fun value => ∃ event ∈ events, event.Reports xpub scheme chain value)
      ((after events).count xpub scheme chain) ∧
    (∀ others, events.Perm others →
      (after others).count xpub scheme chain = (after events).count xpub scheme chain) ∧
    (∀ event, (after events).count xpub scheme chain ≤
      (after (events ++ [event])).count xpub scheme chain) ∧
    (∀ event : Event, (∀ value, ¬ event.Reports xpub scheme chain value) →
      (after (events ++ [event])).count xpub scheme chain =
        (after events).count xpub scheme chain) ∧
    ∀ wallet : Wallet, wallet.synchronizer.allocator = after events → ∀ observed,
      (wallet.advanceChain xpub scheme chain observed).1.toNat =
        (after (events ++ [.advance xpub scheme chain observed])).count xpub scheme chain ∧
      (wallet.advanceChain xpub scheme chain observed).2.synchronizer.allocator =
        after (events ++ [.advance xpub scheme chain observed]) := by
  have isLargest (run : List Event) :
      IsLargest (fun value => ∃ event ∈ run, event.Reports xpub scheme chain value)
        ((after run).count xpub scheme chain) := by
    have raises : empty.Raises _ (after run) := raises_run run
    exact raises.isLargest xpub scheme chain
  refine ⟨isLargest events, fun others isOrder => ?_, fun event => ?_, fun event isSilent => ?_,
    fun wallet isAfter observed => ⟨count_advanceChain isAfter xpub scheme chain observed, ?_⟩⟩
  · have sameReports (value : Nat) : (∃ event ∈ others, event.Reports xpub scheme chain value) ↔
        ∃ event ∈ events, event.Reports xpub scheme chain value := by
      simp only [isOrder.mem_iff]
    have reordered := isLargest others
    simp only [sameReports] at reordered
    exact reordered.unique (isLargest events)
  · rw [after_append]
    exact (raises_tell event).forward xpub scheme chain
  · rw [after_append]
    exact (raises_tell event).count_eq isSilent
  · rw [after_append, ← isAfter]
    rfl

/-- The last index of all, seen in use between lower reports, leaves the same counter in either
order, and a report for another scheme leaves it alone. -/
theorem counter_of_last_index :
    let events : List Event := [.observe "pub" .legacy ⟨3, 7⟩,
      .advance "pub" .legacy .receive 0xffffffff, .advance "pub" .legacy .receive 4]
    (after events.reverse).count "pub" .legacy .receive = 0xffffffff ∧
    (after (events ++ [.advance "pub" .segwit .receive 9])).count "pub" .legacy .receive =
      0xffffffff ∧
    ∃ wallet : Wallet, wallet.synchronizer.allocator = after events ∧
      (wallet.advanceChain "pub" .legacy .receive 5).1 = 0xffffffff := by
  intro events
  have count : (after events).count "pub" .legacy .receive = 0xffffffff := by decide +kernel
  obtain ⟨-, reordered, -, isSilent, told⟩ :=
    counter_is_largest_report events "pub" .legacy .receive
  refine ⟨(reordered _ events.reverse_perm.symm).trans count, (isSilent _ ?_).trans count, ?_⟩
  · intro value isReported
    cases isReported
  · have told :=
      (told { Wallet.initial with
      synchronizer := { Synchronizer.initial with allocator := after events } } rfl 5).1
    exact ⟨_, rfl, UInt32.toNat_inj.mp (told.trans (by decide +kernel))⟩

end Allocator

end Coffer
