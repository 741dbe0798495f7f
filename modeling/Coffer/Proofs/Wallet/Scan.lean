import Coffer.Proofs.Wallet.Recovery
/-!
# How far a search for accounts gets

A search looks at one account after the other and stops behind the first run of unused accounts that
is as long as the gap. So the wallet that it finds ends with the last used account that has no such
run before it, and what it asks for are the legacy keys of that account and its predecessors, and of
as many accounts more as the gap is long.
-/

namespace Coffer

/-! ## Accounts that a search gets to -/

namespace Wallet.Search

variable {used : Nat → Prop} {gap i last looked : Nat}

/-- Every run of unused accounts behind the first account and before number `i` is shorter than the
gap. -/
def Reaches (used : Nat → Prop) (gap i : Nat) : Prop :=
  ∀ start count, 1 ≤ start → start + count ≤ i →
    (∀ j, start ≤ j → j < start + count → ¬ used j) → count < gap

/-- The last used account that is got to, or the first account where there is none. -/
def IsLast (used : Nat → Prop) (gap last : Nat) : Prop :=
  (last = 0 ∨ used last ∧ Reaches used gap last) ∧ ∀ i, used i → Reaches used gap i → i ≤ last

theorem reaches_zero : Reaches used gap 0 := fun start count atLeast within => by omega

/-- The account behind the ones that were looked at is got to while the gap is not filled. -/
theorem Reaches.next (reaches : Reaches used gap last) (isUsed : last = 0 ∨ used last)
    (unused : ∀ i, last < i → i ≤ looked → ¬ used i) (isOpen : looked < last + gap) :
    Reaches used gap (looked + 1) := by
  intro start count atLeast within isRun
  by_cases isBehind : last < start
  · omega
  by_cases isBefore : start + count ≤ last
  · exact reaches start count atLeast isBefore isRun
  -- The run has the last used account in it, so that there is no used one.
  · rcases isUsed with rfl | isUsed
    · omega
    · exact absurd isUsed (isRun last (by omega) (by omega))

theorem Reaches.le_of_unused (reaches : Reaches used gap i)
    (unused : ∀ j, last < j → j ≤ last + gap → ¬ used j) :
    i ≤ last + gap := by
  refine Nat.le_of_not_lt fun beyond => ?_
  have isShorter :=
    reaches (last + 1) gap (by omega) (by omega) fun j above before => unused j above (by omega)
  exact Nat.lt_irrefl gap isShorter

theorem isLast_of_unused (isUsed : last = 0 ∨ used last) (reaches : Reaches used gap last)
    (unused : ∀ i, last < i → i ≤ last + gap → ¬ used i) : IsLast used gap last := by
  refine ⟨isUsed.imp_right fun isUsed => ⟨isUsed, reaches⟩, fun i iUsed iReached =>
    Nat.le_of_not_lt fun beyond => ?_⟩
  exact unused i beyond (iReached.le_of_unused unused) iUsed

end Wallet.Search

/-! ## What a search asks and finds -/

namespace Indexer

/-- The indexer answers a question about one key with a transaction, of whatever key. -/
def TellsOfUse (indexer : Indexer) (xpub : String) : Prop :=
  ∃ answer, indexer.balances [xpub] = .ok answer ∧ Wallet.Search.tellsOfUse answer = true

/-- The indexer answers a question about one key with a transaction of that key. -/
def SeesUse (indexer : Indexer) (xpub : String) : Prop :=
  ∃ answer balance, indexer.balances [xpub] = .ok answer ∧ (xpub, balance) ∈ answer.entries ∧
    0 < balance.transactions

/-- Answers have entries of keys that were asked for, and of no others. -/
def AnswersAsked (indexer : Indexer) : Prop :=
  ∀ keys answer, indexer.balances keys = .ok answer → ∀ entry ∈ answer.entries, entry.1 ∈ keys

theorem AnswersAsked.tellsOfUse_eq {indexer : Indexer} (answersAsked : indexer.AnswersAsked) :
    indexer.TellsOfUse = indexer.SeesUse := by
  funext xpub
  refine propext (exists_congr fun answer => ?_)
  rw [exists_and_left]
  refine and_congr_right fun asked => ?_
  have onlyAsked (key : String) : (∃ balance, (key, balance) ∈ answer.entries ∧
      0 < balance.transactions) ↔
      key ∈ [xpub] ∧ ∃ balance, (key, balance) ∈ answer.entries ∧ 0 < balance.transactions := by
    refine ⟨fun sees => ⟨?_, sees⟩, And.right⟩
    obtain ⟨balance, isIn, _⟩ := sees
    exact answersAsked [xpub] answer asked _ isIn
  exact Wallet.Search.tellsOfUse_iff onlyAsked

end Indexer

namespace Workplace

abbrev Finds (workplace : Workplace) (seed : Bytes) : Nat → Prop :=
  workplace.services.keys.Used seed workplace.indexer.TellsOfUse

/-- The account of a number has keys, and the indexer answers the question about them, unless it is
the first account, which is not asked about. -/
def CanLookAt (workplace : Workplace) (seed : Bytes) (i : Nat) : Prop :=
  i < 0x100000000 ∧ ∃ pair,
    workplace.services.keys.accountKeys seed .legacy (UInt32.ofNat i) = .ok pair ∧
    (i = 0 ∨ ∃ answer, workplace.indexer.balances [pair.xpub] = .ok answer)

/-- How many unused accounts in a row end a search. -/
abbrev gap (workplace : Workplace) : Nat := workplace.config.recoveryGap.toNat

end Workplace

namespace Wallet.Search

/-- The label that a recovery gives to the account of a number. -/
def labelOf (label : String) : Nat → String
  | 0 => label
  | i + 1 => s!"{label} {i + 2}"

/-- The account of a number as a recovery makes it, with its legacy keys in the clear. -/
def accountOf (label : String) (i : Nat) (pair : AccountKeys) : Account :=
  .ofDerivation (labelOf label i) ⟨.legacy, .plain pair.xpriv, pair.xpub⟩

/-- Every account of a wallet is as a recovery makes it from a seed. -/
def MadeOf (keys : KeySource) (seed : Bytes) (label : String) (payload : Payload) : Prop :=
  ∀ (i : Nat) (account : Account), payload.accounts[i]? = some account →
    ∃ pair, keys.accountKeys seed .legacy (UInt32.ofNat i) = .ok pair ∧
      account = accountOf label i pair

/-- The requests are for the legacy keys of `count` accounts behind the first one, one account after
the other. -/
def AsksInOrder (keys : KeySource) (seed : Bytes) (count : Nat) (requests : List Request) : Prop :=
  requests.length = count ∧ ∀ i < count, ∃ pair,
    keys.accountKeys seed .legacy (UInt32.ofNat (i + 1)) = .ok pair ∧
      requests[i]? = some (.balances [pair.xpub])

variable {workplace : Workplace} {label : String} {search later final : Search}
  {entropy seed : Bytes} {last looked : Nat}

theorem MadeOf.added {keys : KeySource} {payload next : Payload} {pair : AccountKeys}
    (made : MadeOf keys seed label payload)
    (derived : keys.accountKeys seed .legacy (UInt32.ofNat payload.accounts.length) = .ok pair)
    (accounts : next.accounts = payload.accounts ++
      [accountOf label payload.accounts.length pair]) :
    MadeOf keys seed label next := by
  intro i account isAccount
  rw [accounts, List.getElem?_append] at isAccount
  split at isAccount
  · exact made i account isAccount
  · obtain ⟨isLast, rfl⟩ := List.getElem?_eq_some_iff.mp isAccount
    rw [List.length_singleton] at isLast
    have same : i = payload.accounts.length := by omega
    subst same
    exact ⟨pair, derived, List.getElem_singleton _⟩

theorem AsksInOrder.asked {keys : KeySource} {count : Nat} {requests : List Request}
    {pair : AccountKeys} (inOrder : AsksInOrder keys seed count requests)
    (derived : keys.accountKeys seed .legacy (UInt32.ofNat (count + 1)) = .ok pair) :
    AsksInOrder keys seed (count + 1) (requests ++ [.balances [pair.xpub]]) := by
  obtain ⟨length, each⟩ := inOrder
  refine ⟨by rw [List.length_append, length, List.length_singleton], fun i before => ?_⟩
  rcases Nat.lt_or_eq_of_le (Nat.le_of_lt_succ before) with isEarlier | rfl
  · obtain ⟨other, made, isAsked⟩ := each i isEarlier
    exact ⟨other, made, by rw [List.getElem?_append_left (length ▸ isEarlier), isAsked]⟩
  · exact ⟨pair, derived, length ▸ List.getElem?_concat_length⟩

/-- A search that has looked at the accounts up to number `looked` and found that number `last` is
the last one in use. -/
structure Scanned (search : Search) (workplace : Workplace) (label : String) (entropy seed : Bytes)
    (last looked : Nat) :
    Prop extends search.Found workplace.services.keys entropy seed workplace.indexer.TellsOfUse
      last looked where
  keptMade : MadeOf workplace.services.keys seed label search.kept
  scannedMade : MadeOf workplace.services.keys seed label search.scanned
  inOrder : AsksInOrder workplace.services.keys seed looked search.requests
  reaches : Reaches (workplace.Finds seed) workplace.gap last
  isOpen : search.gap ≤ workplace.gap
  canLookAt : ∀ i ≤ looked, workplace.CanLookAt seed i

namespace Scanned

theorem reaches_next (scanned : search.Scanned workplace label entropy seed last looked)
    (goesOn : search.gap < workplace.gap) :
    Reaches (workplace.Finds seed) workplace.gap (looked + 1) := by
  refine scanned.reaches.next scanned.isUsed scanned.unused ?_
  have := scanned.toFound.gap
  omega

variable (scanned : search.Scanned workplace label entropy seed last looked)
  (stretched : Phrase.seedOf entropy = .ok seed)

include scanned stretched

theorem advance (labelled : Text.allBlank label = false) (goesOn : search.gap < workplace.gap)
    (advanced : search.advance workplace label = .ok later) :
    ∃ next, later.Scanned workplace label entropy seed next (looked + 1) := by
  obtain ⟨payload, answer, added, asked, rfl⟩ := advance_eq_ok advanced
  have length : search.scanned.accounts.length = looked + 1 := scanned.scanned.length
  obtain ⟨inRange, pair, derived⟩ := scanned.scanned.keys_of_addAccount stretched added
  obtain ⟨next, isNext, restored, accounts⟩ :=
    scanned.scanned.addAccount stretched
      (labelled_next labelled (search.scanned.accounts.length + 1)) inRange derived
  cases added.symm.trans isNext
  have isLabel : s!"{label} {search.scanned.accounts.length + 1}" =
      labelOf label search.scanned.accounts.length := by
    rw [length]
    rfl
  rw [isLabel] at accounts
  have made : MadeOf workplace.services.keys seed label payload :=
    scanned.scannedMade.added (by rw [length]; exact derived) accounts
  rw [lastXpubs_of_added accounts] at asked ⊢
  have inOrder := scanned.inOrder.asked derived
  have canLookAt : ∀ i ≤ looked + 1, workplace.CanLookAt seed i := by
    intro i atMost
    rcases Nat.lt_or_eq_of_le atMost with before | rfl
    · exact scanned.canLookAt i (Nat.le_of_lt_succ before)
    · exact ⟨inRange, pair, derived, .inr ⟨answer, asked⟩⟩
  have told : tellsOfUse answer = true ↔ workplace.indexer.TellsOfUse pair.xpub := by
    constructor
    · exact fun tells => ⟨answer, asked, tells⟩
    · rintro ⟨other, isOther, tells⟩
      cases asked.symm.trans isOther
      exact tells
  by_cases isUsed : workplace.indexer.TellsOfUse pair.xpub
  · rw [note, if_pos (told.mpr isUsed)]
    exact ⟨looked + 1, ⟨Found.note_used restored derived _ inRange isUsed, made, made, inOrder,
      scanned.reaches_next goesOn, Nat.zero_le _, canLookAt⟩⟩
  · rw [note, if_neg (isUsed ∘ told.mp)]
    exact ⟨last, ⟨scanned.toFound.note_unused restored derived _ isUsed, scanned.keptMade,
      made, inOrder, scanned.reaches, goesOn, canLookAt⟩⟩

theorem exists_advance (labelled : Text.allBlank label = false)
    (canLookAt : workplace.CanLookAt seed (looked + 1)) :
    ∃ later, search.advance workplace label = .ok later := by
  obtain ⟨inRange, pair, derived, isFirst | ⟨answer, asked⟩⟩ := canLookAt
  · cases isFirst
  · obtain ⟨payload, added, _, accounts⟩ :=
      scanned.scanned.addAccount stretched
        (labelled_next labelled (search.scanned.accounts.length + 1)) inRange derived
    simp only [Search.advance, added, lastXpubs_of_added accounts, asked]
    exact ⟨_, rfl⟩

/-- A search that comes to an end has filled the gap, as long as it has fuel for every account that
has a number. -/
theorem run {fuel : Nat} (labelled : Text.allBlank label = false)
    (enough : 0x100000000 ≤ looked + fuel)
    (ran : Search.run workplace label fuel search = .ok final) :
    ∃ last, final.Scanned workplace label entropy seed last (last + workplace.gap) := by
  induction fuel generalizing search last looked with
  | zero =>
    have inRange := (scanned.canLookAt looked (Nat.le_refl looked)).1
    omega
  | succ fuel ih =>
    rw [Search.run] at ran
    split at ran
    · rename_i goesOn
      split at ran
      · cases ran
      · rename_i later advanced
        obtain ⟨next, scannedLater⟩ := scanned.advance stretched labelled goesOn advanced
        exact ih scannedLater (by omega) ran
    · rename_i notOpen
      cases ran
      have isFilled : workplace.gap ≤ final.gap := Nat.le_of_not_lt notOpen
      have filled : looked = last + workplace.gap := by
        have := scanned.toFound.gap
        have := scanned.isOpen
        omega
      exact ⟨last, filled ▸ scanned⟩

theorem exists_run (labelled : Text.allBlank label = false)
    (canLookAt : ∀ i, Reaches (workplace.Finds seed) workplace.gap i → workplace.CanLookAt seed i)
    (fuel : Nat) : ∃ final, Search.run workplace label fuel search = .ok final := by
  induction fuel generalizing search last looked with
  | zero => exact ⟨search, rfl⟩
  | succ fuel ih =>
    rw [Search.run]
    split
    · rename_i goesOn
      obtain ⟨later, advanced⟩ :=
        scanned.exists_advance stretched labelled
          (canLookAt (looked + 1) (scanned.reaches_next goesOn))
      obtain ⟨next, scannedLater⟩ := scanned.advance stretched labelled goesOn advanced
      rw [advanced]
      exact ih scannedLater
    · exact ⟨search, rfl⟩

end Scanned

/-- Where the seed has keys for the first account, there is a new wallet to start from. -/
theorem exists_start (guid sharedKey : String) (iterations : UInt32) {pair : AccountKeys}
    (stretched : Phrase.seedOf entropy = .ok seed) (labelled : Text.allBlank label = false)
    (derived : workplace.services.keys.accountKeys seed .legacy 0 = .ok pair) :
    ∃ first, Payload.hierarchical workplace.services.keys guid sharedKey label entropy
      iterations = .ok first ∧ (start first).Scanned workplace label entropy seed 0 0 := by
  have isNew := Payload.hierarchical_of_keys guid sharedKey iterations stretched derived labelled
  obtain ⟨first, isFirst, restored⟩ :=
    Payload.restored_hierarchical guid sharedKey iterations stretched derived labelled
  cases isFirst.symm.trans isNew
  have made {payload : Payload} (accounts : payload.accounts = [accountOf label 0 pair]) :
      MadeOf workplace.services.keys seed label payload := by
    intro i account isAccount
    rw [accounts] at isAccount
    cases i with
    | zero =>
      cases isAccount
      exact ⟨pair, derived, rfl⟩
    | succ i => cases isAccount
  refine ⟨_, isFirst, ⟨restored, restored, rfl, .inl rfl, fun i above atMost => by omega⟩,
    made rfl, made rfl, ⟨rfl, fun i before => by omega⟩, reaches_zero, Nat.zero_le _,
    fun i atMost => ?_⟩
  cases Nat.le_zero.mp atMost
  exact ⟨by decide, pair, derived, .inl rfl⟩

end Wallet.Search

/-! ## Recoveries -/

namespace Wallet

variable {wallet : Wallet} {workplace : Workplace} {store : Store} {draw : Draw}
  {phrase label : String} {entropy seed : Bytes}

/-- A recovery comes to the end of its search with a wallet to save, or fails before that and leaves
wallet and store alone. -/
theorem recover_cases (restored : Phrase.restore phrase = .ok entropy)
    (stretched : Phrase.seedOf entropy = .ok seed)
    (labelled : Text.allBlank label = false) (email password : String) :
    (∃ (search : Search) (last : Nat),
      search.Scanned workplace label entropy seed last (last + workplace.gap) ∧
        wallet.recover workplace store draw phrase label email password =
          { wallet.settle (wallet.synchronizer.saveNew workplace.surroundings store search.kept
              password email) with
            requests := search.requests }) ∨
    ∃ cause requests, wallet.recover workplace store draw phrase label email password =
      ⟨.error cause, wallet, store, requests⟩ := by
  have named : requireText label "account label" = .ok () := by simp [requireText, labelled]
  cases derived : workplace.services.keys.accountKeys seed .legacy 0 with
  | error cause =>
    refine .inr ⟨.derivation cause, [], ?_⟩
    simp only [recover, restored, Payload.hierarchical, named, Body.ofEntropy, stretched,
      derived, liftError_ok, liftError_error, bind_ok, bind_error]
    rfl
  | ok pair =>
    obtain ⟨first, isFirst, scanned⟩ :=
      Search.exists_start draw.guid draw.sharedKey workplace.config.iterations stretched
        labelled derived
    cases ran : Search.run workplace label Search.fuel (.start first) with
    | error failure =>
      refine .inr ⟨failure.1, failure.2, ?_⟩
      simp only [recover, restored, isFirst, ran, liftError_ok, bind_ok]
    | ok search =>
      obtain ⟨last, scanned⟩ := scanned.run stretched labelled (by decide) ran
      exact .inl ⟨search, last, scanned, recover_of_run restored isFirst ran email password⟩

/-- A recovery keeps the accounts up to the last used one that it gets to. For a phrase and a label
that can be used, and an indexer that answers with entries of the asked keys only, let an account be
used when the indexer reports a transaction of its legacy key. A wallet that is recovered is of the
third version and has the accounts up to the last used one with no run of unused accounts before it
that is as long as the gap: each with its label and its legacy keys, in the clear. The indexer was
asked about these, but for the first, and about as many more as the gap is long, once each and in
order. Where an account that is got to has no keys, or the indexer fails when it is asked about it,
the recovery fails and leaves wallet and store alone; and where that does not happen, nothing but
the store keeps the wallet from being recovered. -/
theorem recovery_keeps_accounts_in_reach (wallet : Wallet) (workplace : Workplace)
    (store : Store) (draw : Draw) {phrase label : String} (email password : String)
    {entropy : Bytes} (restored : Phrase.restore phrase = .ok entropy)
    (labelled : Text.allBlank label = false) (answersAsked : workplace.indexer.AnswersAsked) :
    ∃ seed, Phrase.seedOf entropy = .ok seed ∧
      let reply := wallet.recover workplace store draw phrase label email password
      let used := workplace.services.keys.Used seed workplace.indexer.SeesUse
      (∀ committed, reply.result = .ok committed → ∃ last, Search.IsLast used workplace.gap last ∧
        reply.wallet.payload = .ok committed.payload ∧ committed.payload.version = .v3 ∧
        committed.payload.accounts.length = last + 1 ∧
        Search.MadeOf workplace.services.keys seed label committed.payload ∧
        Search.AsksInOrder workplace.services.keys seed (last + workplace.gap) reply.requests) ∧
      ((∃ i, Search.Reaches used workplace.gap i ∧ ¬ workplace.CanLookAt seed i) →
        (∃ cause, reply.result = .error cause) ∧ reply.wallet = wallet ∧ reply.store = store) ∧
      ((∀ i, Search.Reaches used workplace.gap i → workplace.CanLookAt seed i) →
        CanRecover workplace store draw label → ∃ committed, reply.result = .ok committed) := by
  obtain ⟨seed, stretched⟩ := Phrase.seedOf_of_restore restored
  refine ⟨seed, stretched, ?_⟩
  rw [← answersAsked.tellsOfUse_eq]
  refine ⟨fun committed recovered => ?_, fun ⟨i, iReached, blocked⟩ => ?_,
    fun canLookAt canRecover => ?_⟩
  · rcases recover_cases restored stretched labelled email password with
      ⟨search, last, scanned, isReply⟩ | ⟨_, _, isReply⟩
    · rw [isReply] at recovered ⊢
      obtain ⟨samePayload, leaves⟩ := payload_of_saveNew recovered
      have isLast := Search.isLast_of_unused scanned.isUsed scanned.reaches scanned.unused
      have kept := scanned.kept
      have made := scanned.keptMade
      rw [← samePayload] at kept made
      exact ⟨last, isLast, leaves, kept.isThird, kept.length, made, scanned.inOrder⟩
    · rw [isReply] at recovered
      cases recovered
  · rcases recover_cases restored stretched labelled email password with
      ⟨search, last, scanned, _⟩ | ⟨_, _, isReply⟩
    · exact absurd (scanned.canLookAt i (iReached.le_of_unused scanned.unused)) blocked
    · rw [isReply]
      exact ⟨⟨_, rfl⟩, rfl, rfl⟩
  · obtain ⟨_, pair, derived, _⟩ := canLookAt 0 Search.reaches_zero
    obtain ⟨first, isFirst, scanned⟩ :=
      Search.exists_start draw.guid draw.sharedKey workplace.config.iterations stretched
        labelled derived
    obtain ⟨search, ran⟩ := scanned.exists_run stretched labelled canLookAt Search.fuel
    obtain ⟨committed, recovered, _⟩ :=
      recover_succeeds restored isFirst ran email password canRecover
    exact ⟨committed, recovered⟩

end Wallet

/-! ## A wallet with its second account in use -/

namespace Toy

variable {seed : Bytes} {pair : AccountKeys} {i last : Nat}

/-- The only entry that is ever answered is of the used key, when that was asked for. -/
theorem entry_of_indexerOf {xpub : String} {keys : List String} {answer : SortedMap String Balance}
    {entry : String × Balance} (asked : (indexerOf xpub).balances keys = .ok answer)
    (isIn : entry ∈ answer.entries) : xpub ∈ keys ∧ entry = (xpub, ⟨5, 5, 1⟩) := by
  cases asked
  split at isIn
  · rename_i isAsked
    exact ⟨isAsked, List.mem_singleton.mp isIn⟩
  · cases isIn

theorem indexerOf_answersAsked (xpub : String) : (indexerOf xpub).AnswersAsked := by
  intro keys answer asked entry isIn
  obtain ⟨isAsked, rfl⟩ := entry_of_indexerOf asked isIn
  exact isAsked

theorem used_indexerOf (inRange : last < 0x100000000)
    (derived : keySource.accountKeys seed .legacy (UInt32.ofNat last) = .ok pair) :
    keySource.Used seed (indexerOf pair.xpub).SeesUse i ↔ i = last := by
  constructor
  · rintro ⟨small, other, made, answer, balance, asked, isIn, _⟩
    obtain ⟨_, sameEntry⟩ := entry_of_indexerOf asked isIn
    have sameNumber := (keySource_tellsPathsApart made derived (congrArg Prod.fst sameEntry)).2
    have same := congrArg UInt32.toNat sameNumber
    rwa [UInt32.toNat_ofNat_of_lt' small, UInt32.toNat_ofNat_of_lt' inRange] at same
  · rintro rfl
    refine ⟨inRange, pair, derived, _, ⟨5, 5, 1⟩, rfl, ?_, by decide⟩
    rw [if_pos (List.mem_singleton_self _)]
    exact List.mem_singleton_self _

/-- What the phrase of given entropy restores, and the keys that its seed has for the second
account. -/
theorem exists_phrase : ∃ (phrase : String) (entropy seed : Bytes) (pair : AccountKeys),
    Phrase.restore phrase = .ok entropy ∧ Phrase.seedOf entropy = .ok seed ∧
      keySource.accountKeys seed .legacy (UInt32.ofNat 1) = .ok pair := by
  have ⟨phrase, revealed⟩ : ∃ phrase, Phrase.reveal (List.replicate 16 0) = .ok phrase := ⟨_, rfl⟩
  have ⟨seed, stretched⟩ : ∃ seed, Phrase.seedOf (List.replicate 16 0) = .ok seed := ⟨_, rfl⟩
  obtain ⟨pair, derived⟩ :=
    accountKeys_succeeds seed .legacy (by decide : UInt32.ofNat 1 < 0x80000000)
  exact ⟨phrase, _, seed, pair, Phrase.restore_of_reveal revealed, stretched, derived⟩

end Toy

namespace Wallet

/-- When the second account was used, a recovery asks for six accounts and keeps two, the second one
under its number. -/
theorem recovery_keeps_accounts_in_reach_second : ∃ (phrase xpub : String) (committed : Committed)
    (account : Account),
    let reply :=
      initial.recover (Toy.lookout xpub) .empty ⟨"other", "key", []⟩ phrase "main" "mail" "password"
    reply.result = .ok committed ∧ committed.payload.accounts.length = 2 ∧
      reply.requests.length = 6 ∧
      committed.payload.accounts[1]? = some account ∧ account.label = "main 2" ∧
        account.xpub? .legacy = some xpub := by
  obtain ⟨phrase, entropy, seed, pair, restored, stretched, derived⟩ := Toy.exists_phrase
  obtain ⟨other, isOther, recovers, _, succeeds⟩ := recovery_keeps_accounts_in_reach initial
    (Toy.lookout pair.xpub) .empty ⟨"other", "key", []⟩ "mail" "password" restored
    (by decide : Text.allBlank "main" = false) (Toy.indexerOf_answersAsked pair.xpub)
  cases stretched.symm.trans isOther
  have used (i : Nat) : Toy.keySource.Used seed (Toy.indexerOf pair.xpub).SeesUse i ↔ i = 1 :=
    Toy.used_indexerOf (by decide) derived
  have canLookAt (i : Nat)
      (iReached : Search.Reaches (Toy.keySource.Used seed (Toy.indexerOf pair.xpub).SeesUse)
      (Toy.lookout pair.xpub).gap i) : (Toy.lookout pair.xpub).CanLookAt seed i := by
    have atMost : i ≤ 1 + 5 := iReached.le_of_unused fun j above _ isUsed => by
      have := (used j).mp isUsed
      omega
    obtain ⟨keys, made⟩ :=
      Toy.accountKeys_succeeds seed .legacy (Toy.ofNat_lt (by omega : i < 0x80000000))
    exact ⟨by omega, keys, made, .inr ⟨_, rfl⟩⟩
  obtain ⟨committed, recovered⟩ := succeeds canLookAt (Toy.canRecover pair.xpub)
  obtain ⟨last, ⟨isUsed, isLast⟩, _, _, length, made, asked, _⟩ := recovers committed recovered
  have isFive : (Toy.lookout pair.xpub).gap = 5 := rfl
  have atLeast : 1 ≤ last := isLast 1 ((used 1).mpr rfl) fun start count _ _ _ => by omega
  obtain rfl : last = 1 :=
    isUsed.elim (fun isFirst => by omega) fun isUsed => (used last).mp isUsed.1
  have isAccount := List.getElem?_eq_getElem (by omega : 1 < committed.payload.accounts.length)
  obtain ⟨keys, madeOf, isMade⟩ := made 1 _ isAccount
  cases derived.symm.trans madeOf
  refine ⟨phrase, pair.xpub, committed, _, recovered, length, asked, isAccount, ?_, ?_⟩
  · have isLabel : Search.labelOf "main" 1 = "main 2" := by decide
    rw [isMade]
    exact isLabel
  · rw [isMade]
    exact (Account.legacy_xpub? rfl).1

end Wallet

end Coffer
