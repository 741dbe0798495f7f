import Coffer.Proofs.SortedMap
import Coffer.Proofs.Wallet.Scan
/-!
# Entries that were not asked for

An indexer may answer with entries of keys that it was not asked about. A question about balances
reads the entries of the asked keys alone. A search for accounts reads all entries, so that a
transaction of any key makes an account look used. Two indexers with the same entries of the asked
keys therefore lead to the same recovery where they agree on whether there are other transactions,
and need not where they do not.
-/

namespace Coffer

namespace Indexer

/-- Two answers to a question have the same entries of the keys that were asked for, or are the same
failure. -/
inductive Alike (keys : List String) :
    (one other : Except TransportError (SortedMap String Balance)) → Prop
  | failed (cause : TransportError) : Alike keys (.error cause) (.error cause)
  | answered {one other : SortedMap String Balance} (same : ∀ key ∈ keys, one.find? key =
      other.find? key) : Alike keys (.ok one) (.ok other)

/-- An answer tells of a transaction of a key that was not asked for. -/
def HasStray (keys : List String) (answer : SortedMap String Balance) : Prop :=
  ∃ key balance, (key, balance) ∈ answer.entries ∧ key ∉ keys ∧ 0 < balance.transactions

/-- A question is answered with a transaction of a key that was not asked for. -/
def TellsOfStray (indexer : Indexer) (keys : List String) : Prop :=
  ∃ answer, indexer.balances keys = .ok answer ∧ HasStray keys answer

/-- Two indexers have like answers to a question, and both or none of them tells of transactions of
other keys. -/
structure Agrees (indexer other : Indexer) (keys : List String) : Prop where
  alike : Alike keys (indexer.balances keys) (other.balances keys)
  sameStrays : indexer.TellsOfStray keys ↔ other.TellsOfStray keys

end Indexer

theorem BalanceCache.fetch_of_alike {indexer other : Indexer} {keys : List String}
    (cache : BalanceCache)
    (alike : Indexer.Alike keys (indexer.balances keys) (other.balances keys)) :
    cache.fetch indexer keys = cache.fetch other keys := by
  unfold fetch
  split
  · rfl
  · generalize indexer.balances keys = answer at alike ⊢
    generalize other.balances keys = otherAnswer at alike ⊢
    cases alike with
    | failed cause => rfl
    | answered same =>
      have sameEntry : ∀ key ∈ keys, _ := fun key isAsked =>
        congrArg (fun found => (key, Option.getD found Balance.zero)) (same key isAsked)
      simp only [resolve, List.map_congr_left sameEntry]

namespace Wallet.Search

variable {workplace : Workplace} {other : Indexer} {label : String} {search later : Search}

theorem tellsOfUse_iff_or_hasStray (keys : List String) (answer : SortedMap String Balance) :
    tellsOfUse answer = true ↔
      (∃ key ∈ keys, ∃ balance, answer.find? key = some balance ∧ 0 < balance.transactions) ∨
        Indexer.HasStray keys answer := by
  simp only [tellsOfUse, SortedMap.values, List.any_map, List.any_eq_true, Function.comp_apply,
    decide_eq_true_eq]
  constructor
  · rintro ⟨⟨key, balance⟩, isIn, positive⟩
    by_cases isAsked : key ∈ keys
    · exact .inl ⟨key, isAsked, balance, SortedMap.find?_eq_some.mpr isIn, positive⟩
    · exact .inr ⟨key, balance, isIn, isAsked, positive⟩
  · rintro (⟨key, _, balance, found, positive⟩ | ⟨key, balance, isIn, _, positive⟩)
    · exact ⟨(key, balance), SortedMap.find?_eq_some.mp found, positive⟩
    · exact ⟨(key, balance), isIn, positive⟩

theorem kept_of_stray (advanced : search.advance workplace label = .ok later)
    (stray : workplace.indexer.TellsOfStray (lastXpubs later.scanned)) :
    later.kept = later.scanned ∧ later.gap = 0 := by
  obtain ⟨scanned, answer, _, asked, rfl⟩ := advance_eq_ok advanced
  obtain ⟨again, askedAgain, hasStray⟩ := stray
  have sameScanned (search : Search) : (note search scanned answer).scanned = scanned := by
    unfold note
    split <;> rfl
  rw [sameScanned] at askedAgain hasStray ⊢
  cases asked.symm.trans askedAgain
  rw [note, if_pos ((tellsOfUse_iff_or_hasStray _ answer).mpr (.inr hasStray))]
  exact ⟨rfl, rfl⟩

def asked : Except (WalletError × List Request) Search → List Request
  | .error failure => failure.2
  | .ok search => search.requests

theorem requests_note (search : Search) (scanned : Payload) (answer : SortedMap String Balance) :
    (note search scanned answer).requests = search.requests := by
  unfold note
  split <;> rfl

theorem asked_advance {scanned : Payload}
    (added : search.scanned.addAccount workplace.services
      s!"{label} {search.scanned.accounts.length + 1}" none =
      .ok scanned) :
    asked (search.advance workplace label) = search.requests ++
      [.balances (lastXpubs scanned)] := by
  simp only [advance, added]
  split
  · rfl
  · rw [asked, requests_note]

theorem requests_subset_advance (workplace : Workplace) (label : String) (search : Search) :
    search.requests ⊆ asked (search.advance workplace label) := by
  cases added : search.scanned.addAccount workplace.services
      s!"{label} {search.scanned.accounts.length + 1}" none with
  | error cause =>
    simp only [advance, added]
    exact List.Subset.refl _
  | ok scanned =>
    rw [asked_advance added]
    exact List.subset_append_left _ _

theorem requests_subset_run (workplace : Workplace) (label : String) (fuel : Nat)
    (search : Search) : search.requests ⊆ asked (run workplace label fuel search) := by
  induction fuel generalizing search with
  | zero => exact List.Subset.refl _
  | succ fuel ih =>
    have further := requests_subset_advance workplace label search
    rw [run]
    split
    · split
      · rename_i isFailure
        rwa [isFailure] at further
      · rename_i later isLater
        rw [isLater] at further
        exact List.Subset.trans further (ih later)
    · exact List.Subset.refl _

theorem advance_of_agrees
    (agrees : ∀ keys, .balances keys ∈ asked (search.advance workplace label) →
      workplace.indexer.Agrees other keys) :
    search.advance { workplace with indexer := other } label = search.advance workplace label := by
  simp only [advance]
  split
  · rfl
  · rename_i scanned added
    have isAsked : .balances (lastXpubs scanned) ∈ asked (search.advance workplace label) := by
      rw [asked_advance added]
      exact List.mem_concat_self
    obtain ⟨alike, sameStrays⟩ := agrees (lastXpubs scanned) isAsked
    unfold Indexer.TellsOfStray at sameStrays
    generalize workplace.indexer.balances (lastXpubs scanned) = answer at alike sameStrays ⊢
    generalize other.balances (lastXpubs scanned) = otherAnswer at alike sameStrays ⊢
    cases alike with
    | failed cause => rfl
    | @answered one two same =>
      simp only [Except.ok.injEq, exists_eq_left'] at sameStrays
      have told : tellsOfUse one = tellsOfUse two := by
        rw [Bool.eq_iff_iff, tellsOfUse_iff_or_hasStray (lastXpubs scanned) one,
          tellsOfUse_iff_or_hasStray (lastXpubs scanned) two, sameStrays]
        refine or_congr_left (exists_congr fun key => and_congr_right fun isKey => ?_)
        rw [same key isKey]
      simp only [note, told]

theorem run_of_agrees {fuel : Nat}
    (agrees : ∀ keys, .balances keys ∈ asked (run workplace label fuel search) →
      workplace.indexer.Agrees other keys) :
    run { workplace with indexer := other } label fuel search =
      run workplace label fuel search := by
  induction fuel generalizing search with
  | zero => rfl
  | succ fuel ih =>
    simp only [run] at agrees ⊢
    split
    · rename_i goesOn
      simp only [if_pos goesOn] at agrees
      cases advanced : search.advance workplace label with
      | error failure =>
        simp only [advanced] at agrees
        rw [advance_of_agrees (by rwa [advanced]), advanced]
      | ok later =>
        simp only [advanced] at agrees
        have agreesBefore (keys : List String)
            (isAsked : .balances keys ∈ asked (search.advance workplace label)) :
            workplace.indexer.Agrees other keys := by
          rw [advanced] at isAsked
          exact agrees keys (requests_subset_run workplace label fuel later isAsked)
        rw [advance_of_agrees agreesBefore, advanced]
        exact ih agrees
    · rfl

end Wallet.Search

namespace Wallet

/-- Recoveries are the same for indexers that agree about the keys asked for. Let the answers to all
questions of a recovery have the same entries of the asked keys, or the same failures, from another
indexer as well. Where the answers also agree on whether they tell of transactions of keys that were
not asked for, the recovery is the same with the other indexer, its questions, its wallet, its store
and its failure included. A question about balances is answered alike and cached alike in any case;
but a search takes an account for used when the answer about it tells of any such transaction. -/
theorem same_recovery_of_agreeing_indexers (wallet : Wallet) (workplace : Workplace)
    (store : Store) (draw : Draw) (phrase label email password : String) (other : Indexer)
    (alike : ∀ keys, .balances keys ∈
      (wallet.recover workplace store draw phrase label email password).requests →
      Indexer.Alike keys (workplace.indexer.balances keys) (other.balances keys)) :
    ((∀ keys, .balances keys ∈
        (wallet.recover workplace store draw phrase label email password).requests →
        (workplace.indexer.TellsOfStray keys ↔ other.TellsOfStray keys)) →
      wallet.recover { workplace with indexer := other } store draw phrase label email password =
        wallet.recover workplace store draw phrase label email password) ∧
    (∀ (cache : BalanceCache) (keys : List String),
      Indexer.Alike keys (workplace.indexer.balances keys) (other.balances keys) →
        cache.fetch workplace.indexer keys = cache.fetch other keys) ∧
    (∀ search later : Search, search.advance workplace label = .ok later →
      workplace.indexer.TellsOfStray (Search.lastXpubs later.scanned) → later.kept = later.scanned ∧
        later.gap = 0) := by
  refine ⟨fun sameStrays => ?_, fun cache keys => cache.fetch_of_alike, fun _ _ =>
    Search.kept_of_stray⟩
  have agrees (keys : List String)
      (isAsked : .balances keys ∈
        (wallet.recover workplace store draw phrase label email password).requests) :
      workplace.indexer.Agrees other keys := ⟨alike keys isAsked, sameStrays keys isAsked⟩
  clear alike sameStrays
  simp only [recover] at agrees ⊢
  split
  · rfl
  · rename_i payload isRestored
    simp only [isRestored] at agrees
    have sameRun : Search.run { workplace with indexer := other } label Search.fuel
        (.start payload) = Search.run workplace label Search.fuel (.start payload) := by
      refine Search.run_of_agrees fun keys isAsked => agrees keys ?_
      split
      · rename_i ran
        rwa [ran] at isAsked
      · rename_i ran
        rwa [ran] at isAsked
    rw [sameRun]
    rfl

end Wallet

namespace Toy

variable {phrase xpub : String} {entropy seed : Bytes} {pair : AccountKeys} {stray : Balance}

/-- An indexer that has seen one transaction of one key, and has an entry of that key in every other
answer as well. -/
def gossipOf (xpub : String) (stray : Balance) : Indexer where
  balances keys := .ok (SortedMap.empty.insert xpub (if xpub ∈ keys then ⟨5, 5, 1⟩ else stray))
  usage _ := .ok .empty

def market (xpub : String) (stray : Balance) : Workplace :=
  { lookout xpub with indexer := gossipOf xpub stray }

theorem alike_gossipOf (xpub : String) (stray : Balance) (keys : List String) :
    Indexer.Alike keys ((indexerOf xpub).balances keys) ((gossipOf xpub stray).balances keys) := by
  refine .answered fun key isAsked => ?_
  split
  · rfl
  · rename_i notAsked
    have isOther : key ≠ xpub := fun same => notAsked (same ▸ isAsked)
    rw [SortedMap.find?_insert, if_neg isOther]

theorem no_stray_of_indexerOf (xpub : String) (keys : List String) :
    ¬ (indexerOf xpub).TellsOfStray keys := by
  rintro ⟨answer, asked, key, balance, isIn, notAsked, _⟩
  exact notAsked (indexerOf_answersAsked xpub keys answer asked _ isIn)

theorem no_stray_of_gossipOf (idle : stray.transactions = 0) (keys : List String) :
    ¬ (gossipOf xpub stray).TellsOfStray keys := by
  rintro ⟨answer, asked, key, balance, isIn, notAsked, positive⟩
  cases asked
  cases List.mem_singleton.mp isIn
  rw [if_neg notAsked, idle] at positive
  exact absurd positive (by decide)

theorem tellsOfUse_gossipOf (keys : List String) :
    ∃ answer, (gossipOf xpub ⟨5, 5, 1⟩).balances keys = .ok answer ∧
      Wallet.Search.tellsOfUse answer = true := by
  refine ⟨_, rfl, ?_⟩
  rw [ite_self]
  rfl

theorem lookout_recovers (restored : Phrase.restore phrase = .ok entropy)
    (stretched : Phrase.seedOf entropy = .ok seed)
    (derived : keySource.accountKeys seed .legacy (UInt32.ofNat 1) = .ok pair) :
    ∃ committed, (Wallet.initial.recover (lookout pair.xpub) .empty ⟨"other", "key", []⟩
      phrase "main" "mail" "password").result = .ok committed := by
  have nothingElse (i : Nat) (beyond : 2 ≤ i) : ¬ keySource.Used seed (fun key =>
      key = pair.xpub) i := by
    rintro ⟨inRange, other, made, same⟩
    have sameNumber := congrArg UInt32.toNat (keySource_tellsPathsApart made derived same).2
    rw [UInt32.toNat_ofNat_of_lt' inRange] at sameNumber
    have isOne : (UInt32.ofNat 1).toNat = 1 := rfl
    omega
  obtain ⟨committed, _, recovered, _⟩ := Wallet.recover_finds (canRecover pair.xpub)
    restored stretched (indexerOf_reports pair.xpub) (by decide : 0 < 2)
    (hasAccounts seed (by rw [recoveryGap_lookout]; decide)) nothingElse "mail" "password"
  exact ⟨committed, recovered⟩

end Toy

namespace Wallet

/-- Entries without transactions make no difference. -/
theorem same_recovery_of_idle_strays : ∃ (phrase xpub : String) (committed : Committed),
    (initial.recover (Toy.lookout xpub) .empty ⟨"other", "key", []⟩ phrase "main" "mail"
      "password").result = .ok committed ∧
    (initial.recover (Toy.market xpub ⟨5, 5, 0⟩) .empty ⟨"other", "key", []⟩ phrase "main" "mail"
      "password").result = .ok committed := by
  obtain ⟨phrase, entropy, seed, pair, restored, stretched, derived⟩ := Toy.exists_phrase
  obtain ⟨committed, recovered⟩ := Toy.lookout_recovers restored stretched derived
  have same := (same_recovery_of_agreeing_indexers initial (Toy.lookout pair.xpub) .empty
    ⟨"other", "key", []⟩ phrase "main" "mail" "password" (Toy.gossipOf pair.xpub ⟨5, 5, 0⟩)
    fun keys _ => Toy.alike_gossipOf pair.xpub _ keys).1
    fun keys _ => iff_of_false (Toy.no_stray_of_indexerOf pair.xpub keys)
    (Toy.no_stray_of_gossipOf rfl keys)
  exact ⟨phrase, pair.xpub, committed, recovered, (congrArg Reply.result same).trans recovered⟩

/-- Entries with transactions do: from two indexers whose answers to every question are alike, and
are cached alike, one recovers the wallet, and the other one lets the search go on until it
fails. -/
theorem stray_transactions_fail_recovery : ∃ (phrase xpub : String) (committed : Committed)
    (cause : WalletError), (∀ keys, Indexer.Alike keys ((Toy.lookout xpub).indexer.balances keys)
      ((Toy.market xpub ⟨5, 5, 1⟩).indexer.balances keys)) ∧
    (∀ (cache : BalanceCache) (keys : List String),
      cache.fetch (Toy.lookout xpub).indexer keys =
        cache.fetch (Toy.market xpub ⟨5, 5, 1⟩).indexer keys) ∧
    (initial.recover (Toy.lookout xpub) .empty ⟨"other", "key", []⟩ phrase "main" "mail"
      "password").result = .ok committed ∧
    (initial.recover (Toy.market xpub ⟨5, 5, 1⟩) .empty ⟨"other", "key", []⟩ phrase "main" "mail"
      "password").result = .error cause := by
  obtain ⟨phrase, entropy, seed, pair, restored, stretched, derived⟩ := Toy.exists_phrase
  obtain ⟨committed, recovered⟩ := Toy.lookout_recovers restored stretched derived
  refine ⟨phrase, pair.xpub, committed, ?_⟩
  rcases @recover_cases initial (Toy.market pair.xpub ⟨5, 5, 1⟩) .empty ⟨"other", "key", []⟩ phrase
    "main" entropy seed restored stretched (by decide) "mail" "password" with
    ⟨search, last, scanned, _⟩ | ⟨cause, _, isReply⟩
  · -- The account behind the last used one looks used as well.
    have within : last + 1 ≤ last + (Toy.market pair.xpub ⟨5, 5, 1⟩).gap :=
      Nat.add_le_add_left (by decide : 1 ≤ 5) last
    obtain ⟨inRange, other, made, _⟩ := scanned.canLookAt (last + 1) within
    exact absurd ⟨inRange, other, made, Toy.tellsOfUse_gossipOf _⟩
      (scanned.unused (last + 1) (Nat.lt_succ_self last) within)
  · refine ⟨cause, Toy.alike_gossipOf pair.xpub _, fun cache keys => ?_, recovered, ?_⟩
    · exact cache.fetch_of_alike (Toy.alike_gossipOf pair.xpub _ keys)
    · rw [isReply]

end Wallet

end Coffer
