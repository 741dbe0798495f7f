import Coffer.BalanceCache
import Coffer.Proofs.Balance
import Coffer.Proofs.SortedMap
/-!
# What cached balances tell

What is cached for a key is what the last answer about it said, with what was spent and received
since. So it does not depend on other keys, on questions that failed, or on anything from before
that answer.
-/

namespace Coffer.BalanceCache

variable {cache : BalanceCache} {indexer : Indexer} {keys : List String}
  {answer : SortedMap String Balance}

/-- What an answer says of a key; zero where it says nothing. -/
def reported (answer : SortedMap String Balance) (key : String) : Balance :=
  (answer.find? key).getD .zero

theorem balance_adjust (cache : BalanceCache) (key wanted : String) (amount : Int) :
    (cache.adjust key amount).balance wanted =
      if wanted = key then (cache.balance key).adjust amount else cache.balance wanted := by
  rw [balance, adjust, SortedMap.find?_insert]
  split
  · rfl
  · rfl

/-- The entries that an answer resolves to are those of the keys that were asked for. -/
theorem find?_resolve (keys : List String) (answer : SortedMap String Balance) (key : String) :
    (resolve keys answer).find? key = if key ∈ keys then some (reported answer key) else none :=
  SortedMap.find?_foldl_insert_keys .empty (reported answer) keys key

theorem balance_absorb (cache : BalanceCache) (keys : List String)
    (answer : SortedMap String Balance) (key : String) :
    (cache.absorb (resolve keys answer)).balance key =
      if key ∈ keys then reported answer key else cache.balance key := by
  have found : (cache.absorb (resolve keys answer)).entries.find? key =
      ((resolve keys answer).find? key).or (cache.entries.find? key) :=
    SortedMap.find?_foldl_insert cache.entries (resolve keys answer).sorted key
  rw [balance, found, find?_resolve]
  split
  · rfl
  · rfl

/-- A question that is answered gives the entries of the keys asked for and caches them; one about
nothing is not put. -/
theorem fetch_of_answer (cache : BalanceCache)
    (answered : keys = [] ∨ indexer.balances keys = .ok answer) :
    (cache.fetch indexer keys).1 = .ok (resolve keys answer) ∧
      (cache.fetch indexer keys).2.1 = cache.absorb (resolve keys answer) := by
  rw [fetch]
  split
  · rename_i isEmpty
    rw [List.isEmpty_iff.mp isEmpty]
    exact ⟨rfl, rfl⟩
  · rename_i asks
    rw [answered.resolve_left fun isEmpty => asks (List.isEmpty_iff.mpr isEmpty)]
    exact ⟨rfl, rfl⟩

/-- A question that is answered replaces what is cached for the keys asked for, and nothing else. -/
theorem balance_fetch (cache : BalanceCache)
    (answered : keys = [] ∨ indexer.balances keys = .ok answer) (key : String) :
    (cache.fetch indexer keys).2.1.balance key = if key ∈ keys then
      reported answer key else cache.balance key := by
  rw [(cache.fetch_of_answer answered).2, balance_absorb]

theorem fetch_of_failure (cache : BalanceCache) {cause : TransportError}
    (failed : indexer.balances keys = .error cause) :
    (keys ≠ [] → (cache.fetch indexer keys).1 = .error (.transport (.batchFailed cause.message))) ∧
      (cache.fetch indexer keys).2.1 = cache := by
  rw [fetch]
  split
  · rename_i isEmpty
    exact ⟨fun asks => absurd (List.isEmpty_iff.mp isEmpty) asks, rfl⟩
  · rw [failed]
    exact ⟨fun _ => rfl, rfl⟩

/-- What happens to a cache. Every question may be put to another indexer, so that answers may
change. -/
inductive Event where
  | fetch (indexer : Indexer) (keys : List String)
  | adjust (key : String) (amount : Int)
  | clear

def tell (cache : BalanceCache) : Event → BalanceCache
  | .fetch indexer keys => (cache.fetch indexer keys).2.1
  | .adjust key amount => cache.adjust key amount
  | .clear => empty

/-- What a sequence of events makes of a new cache. -/
def after (events : List Event) : BalanceCache := events.foldl tell empty

namespace Event

/-- The balance from which on amounts of a key count after an event: what an answer says where the
key was asked for, and zero where everything is forgotten. -/
def settles? (key : String) : Event → Option Balance
  | fetch indexer keys =>
    match indexer.balances keys with
    | .ok answer => if key ∈ keys then some (reported answer key) else none
    | .error _ => none
  | adjust _ _ => none
  | clear => some .zero

def amount? (key : String) : Event → Option Int
  | adjust other amount => if other = key then some amount else none
  | _ => none

end Event

/-- What the last answer said of a key that it was asked about; zero if there was none, or
everything was forgotten since. -/
def lastTold (key : String) (events : List Event) : Balance :=
  (events.reverse.findSome? (Event.settles? key)).getD .zero

/-- What was spent and received with a key since then, in order. -/
def amountsSince (key : String) (events : List Event) : List Int :=
  (events.reverse.takeWhile fun event => (event.settles? key).isNone).reverse.filterMap
    (Event.amount? key)

theorem balance_tell (cache : BalanceCache) (event : Event) (key : String) :
    (cache.tell event).balance key =
      (event.settles? key).getD
        ((event.amount? key).toList.foldl Balance.adjust (cache.balance key)) := by
  cases event with
  | fetch indexer keys =>
    simp only [tell, Event.settles?, Event.amount?, Option.toList_none, List.foldl_nil]
    split
    · rename_i answer answered
      rw [cache.balance_fetch (.inr answered)]
      split
      · rfl
      · rfl
    · rename_i cause failed
      rw [(cache.fetch_of_failure failed).2]
      rfl
  | adjust other amount =>
    simp only [tell, Event.settles?, Event.amount?, Option.getD_none, balance_adjust]
    by_cases isOwn : other = key
    · subst isOwn
      simp
    · simp [isOwn, Ne.symm isOwn]
  | clear => rfl

/-- What is cached for a key is what was last told of it, changed by the amounts since then. -/
theorem balance_after (events : List Event) (key : String) :
    (after events).balance key = (amountsSince key events).foldl Balance.adjust
      (lastTold key events) := by
  rw [after, amountsSince, lastTold, ← List.foldr_reverse]
  -- The last event comes first now: either it settles the balance, or its amount comes after all
  -- others.
  induction events.reverse with
  | nil => rfl
  | cons last before ih =>
    rw [List.foldr_cons, balance_tell, ih]
    cases settled : last.settles? key with
    | some balance => simp [settled]
    | none =>
      rw [Option.getD_none, ← List.foldl_append]
      cases amount : last.amount? key with
      | none => simp [settled, amount]
      | some value => simp [settled, amount]

/-- What is cached for a key is what the last answer about it said, changed by every later amount in
turn: what can be spent stays between nothing and the largest word, only what comes in is received,
and transactions are left to the next answer. As long as no amount leads out of the range, what can
be spent is the exact sum, so that after the same answer the same amounts lead to it in any
order. -/
theorem cached_balance_is_last_told_and_amounts (events : List Event) (key : String) :
    (after events).balance key = (amountsSince key events).foldl Balance.adjust
      (lastTold key events) ∧
    (∀ (balance : Balance) (amount : Int),
      ((balance.adjust amount).spendable.toNat : Int) =
        max 0 (min (balance.spendable.toNat + amount) largestWord) ∧
      (balance.adjust amount).received.toNat =
        min (balance.received.toNat + amount.toNat) largestWord ∧
      (balance.adjust amount).transactions = balance.transactions) ∧
    ∀ others, lastTold key others = lastTold key events →
      (amountsSince key others).Perm (amountsSince key events) →
      (lastTold key others).Bears (amountsSince key others) →
        (((after others).balance key).spendable.toNat : Int) =
          (lastTold key events).spendable.toNat + (amountsSince key events).sum := by
  refine ⟨balance_after events key, fun balance amount => ?_, ?_⟩
  · exact ⟨balance.spendable_adjust amount, balance.received_adjust amount, rfl⟩
  · intro others sameAnswer sameAmounts bears
    rw [balance_after, Balance.spendable_of_bears bears, sameAnswer, sameAmounts.sum_eq]

def tenOn (key : String) : Indexer := .ofTables { balances := .ofList [(key, ⟨10, 10, 1⟩)] }

/-- Twelve satoshis in other amounts and another order, with questions about other keys and failing
ones in between, are twelve satoshis. -/
theorem cached_balance_in_another_order :
    let events : List Event := [.adjust "key" 5, .fetch (tenOn "key") ["key", "key", "other"],
      .adjust "key" (-7), .fetch (.ofTables { failure := some .timeout }) ["key"],
      .adjust "other" (-9223372036854775808), .adjust "key" 9]
    let others : List Event := [.fetch (tenOn "key") ["key"], .adjust "key" 9,
      .fetch (tenOn "key") ["other"], .adjust "key" (-7)]
    ((after others).balance "key").spendable = 12 ∧
      lastTold "key" others = lastTold "key" events ∧
      (amountsSince "key" others).Perm (amountsSince "key" events) ∧
      (lastTold "key" others).Bears (amountsSince "key" others) := by
  intro events others
  obtain ⟨_, _, inAnyOrder⟩ := cached_balance_is_last_told_and_amounts events "key"
  have sameAnswer : lastTold "key" others = lastTold "key" events := by decide +kernel
  have sameAmounts : (amountsSince "key" others).Perm (amountsSince "key" events) := by
    decide +kernel
  have bears : (lastTold "key" others).Bears (amountsSince "key" others) := by
    have amounts : amountsSince "key" others = [9, -7] := by decide +kernel
    have told : lastTold "key" others = ⟨10, 10, 1⟩ := by decide +kernel
    rw [amounts, told]
    rintro (_ | _ | _ | count) <;> simp [largestWord]
  refine ⟨?_, sameAnswer, sameAmounts, bears⟩
  have isSum := inAnyOrder others sameAnswer sameAmounts bears
  have twelve : ((lastTold "key" events).spendable.toNat : Int) + (amountsSince "key" events).sum =
      (12 : UInt64).toNat := by
    decide +kernel
  exact UInt64.toNat_inj.mp (Int.ofNat.inj (isSum.trans twelve))

end Coffer.BalanceCache
