import Coffer.Proofs.Payload.Growth
import Coffer.Proofs.Text
import Coffer.Wallet.Recovery
/-!
# The search for accounts in use

A search looks at the accounts of a seed one after the other, by their legacy keys. It ends at the
first run of unused accounts that is long enough, and keeps the accounts before that run. Both
wallets of a search arise from the restored one by adding accounts, so that whatever adding an
account keeps holds of what a search finds.
-/

namespace Coffer

namespace Wallet.Search

variable {workplace : Workplace} {label : String} {search later : Search}

/-- Both wallets of a search have a property. -/
structure Both (holds : Payload → Prop) (search : Search) : Prop where
  kept : holds search.kept
  scanned : holds search.scanned

/-- Looking at one more account adds it, asks for its keys, and takes the answer into account. -/
theorem advance_eq_ok (advanced : search.advance workplace label = .ok later) :
    ∃ scanned answer,
      search.scanned.addAccount workplace.services s!"{label} {search.scanned.accounts.length + 1}"
        none = .ok scanned ∧ workplace.indexer.balances (lastXpubs scanned) = .ok answer ∧
        later = note { search with requests := search.requests ++ [.balances (lastXpubs scanned)] }
          scanned answer := by
  simp only [advance] at advanced
  split at advanced
  · cases advanced
  · rename_i scanned added
    split at advanced
    · cases advanced
    · rename_i answer asked
      exact ⟨scanned, answer, added, asked, (Except.ok.inj advanced).symm⟩

variable {holds : Payload → Prop}

theorem Both.advance (adds : ∀ {payload next : Payload} {label : String}, holds payload →
      payload.addAccount workplace.services label none = .ok next → holds next)
    (both : search.Both holds) (advanced : search.advance workplace label = .ok later) :
    later.Both holds := by
  obtain ⟨scanned, answer, added, _, rfl⟩ := advance_eq_ok advanced
  have more := adds both.scanned added
  unfold note
  split
  · exact ⟨more, more⟩
  · exact ⟨both.kept, more⟩

theorem Both.run (adds : ∀ {payload next : Payload} {label : String}, holds payload →
      payload.addAccount workplace.services label none = .ok next → holds next)
    {fuel : Nat} (both : search.Both holds)
    (ran : Search.run workplace label fuel search = .ok later) :
    later.Both holds := by
  induction fuel generalizing search with
  | zero =>
    cases ran
    exact both
  | succ fuel ih =>
    rw [Search.run] at ran
    split at ran
    · split at ran
      · cases ran
      · rename_i advanced
        exact ih (both.advance adds advanced) ran
    · cases ran
      exact both

end Wallet.Search

theorem Account.legacy_xpub? {account : Account} {xpriv : Secret} {xpub : String}
    (only : account.derivations = [⟨.legacy, xpriv, xpub⟩]) :
    account.xpub? .legacy = some xpub ∧ account.xpubs.map Prod.snd = [xpub] := by
  simp [xpub?, derivation?, xpubs, lastXpub?, only]

namespace Payload

variable {keys : KeySource} {services : Services} {payload first next : Payload}
  {entropy seed : Bytes} {label : String} {count : Nat}

/-- A wallet of the third version, in plain text, with the first `count` accounts of a seed. -/
structure Restored (payload : Payload) (keys : KeySource) (entropy seed : Bytes)
    (count : Nat) : Prop where
  isPlain : payload.doubleEncrypted = false
  isThird : payload.version = .v3
  body : ∃ body, payload.bodies = [body] ∧ body.seed = .plain (Hex.encode entropy)
  length : payload.accounts.length = count
  each : ∀ (i : Nat) (account : Account), payload.accounts[i]? = some account →
    ∃ pair xpriv, keys.accountKeys seed .legacy (UInt32.ofNat i) = .ok pair ∧
      account.derivations = [⟨.legacy, xpriv, pair.xpub⟩]

theorem hierarchical_of_keys (guid sharedKey : String) (iterations : UInt32) {pair : AccountKeys}
    (stretched : Phrase.seedOf entropy = .ok seed)
    (made : keys.accountKeys seed .legacy 0 = .ok pair)
    (labelled : Text.allBlank label = false) :
    hierarchical keys guid sharedKey label entropy iterations =
      .ok { flat guid sharedKey iterations with
      version := .v3
      bodies := [⟨.plain (Hex.encode entropy), false, 0,
        [.ofDerivation label ⟨.legacy, .plain pair.xpriv, pair.xpub⟩]⟩] } := by
  have named : requireText label "account label" = .ok () := by simp [requireText, labelled]
  simp only [hierarchical, named, Body.ofEntropy, stretched, made, liftError_ok, bind_ok]
  rfl

theorem restored_hierarchical (guid sharedKey : String) (iterations : UInt32) {pair : AccountKeys}
    (stretched : Phrase.seedOf entropy = .ok seed)
    (made : keys.accountKeys seed .legacy 0 = .ok pair)
    (labelled : Text.allBlank label = false) :
    ∃ payload, hierarchical keys guid sharedKey label entropy iterations = .ok payload ∧
      payload.Restored keys entropy seed 1 := by
  refine ⟨_, hierarchical_of_keys guid sharedKey iterations stretched made labelled, rfl, rfl,
    ⟨_, rfl, rfl⟩, rfl, fun i account isAccount => ?_⟩
  cases i with
  | zero =>
    cases isAccount
    exact ⟨pair, _, made, rfl⟩
  | succ i => cases isAccount

/-- An account can be added to a plain wallet of the third version, with the legacy keys of its
position. -/
theorem addAccount_of_plain {body : Body} {pair : AccountKeys}
    (isPlain : payload.doubleEncrypted = false)
    (isThird : payload.version = .v3) (isBody : payload.body? = some body)
    (revealed : body.revealSeed none = .ok seed)
    (labelled : Text.allBlank label = false) (inRange : body.accounts.length < 0x100000000)
    (made : services.keys.accountKeys seed .legacy (UInt32.ofNat body.accounts.length) = .ok pair) :
    payload.addAccount services label none = .ok (payload.withBody { body with
      accounts :=
  body.accounts ++ [.ofDerivation label ⟨.legacy, .plain pair.xpriv, pair.xpub⟩] }) := by
  have named : requireText label "account label" = .ok () := by simp [requireText, labelled]
  have isNumber := accountNumber?_eq_some.mpr ⟨inRange, rfl⟩
  have schemes : Scheme.allFor payload.version = [.legacy] := by rw [isThird]; rfl
  simp only [addAccount, named, requireBody_eq_ok.mpr isBody, fieldCipher_of_plain isPlain,
    revealed, isNumber, schemes, liftError_ok, bind_ok, deriveAll, derive, made]
  rfl

theorem Restored.addAccount (restored : payload.Restored services.keys entropy seed count)
    (stretched : Phrase.seedOf entropy = .ok seed) (labelled : Text.allBlank label = false)
    {pair : AccountKeys} (inRange : count < 0x100000000)
    (made : services.keys.accountKeys seed .legacy (UInt32.ofNat count) = .ok pair) :
    ∃ next, payload.addAccount services label none = .ok next ∧
      next.Restored services.keys entropy seed (count + 1) ∧
      next.accounts = payload.accounts ++
        [.ofDerivation label ⟨.legacy, .plain pair.xpriv, pair.xpub⟩] := by
  obtain ⟨body, onlyBody, isSeed⟩ := restored.body
  have isBody := body?_of_bodies onlyBody
  have accounts := accounts_of_body isBody
  have length : body.accounts.length = count := accounts ▸ restored.length
  have revealed := Body.revealSeed_of_plain isSeed stretched
  subst length
  have added :=
    addAccount_of_plain restored.isPlain restored.isThird isBody revealed labelled inRange made
  refine ⟨_, added, ⟨restored.isPlain, restored.isThird, ⟨_, rfl, isSeed⟩, ?_,
    fun i other isOther => ?_⟩, ?_⟩
  · exact List.length_append
  · change (body.accounts ++ [_])[i]? = some other at isOther
    rw [List.getElem?_append] at isOther
    split at isOther
    · exact restored.each i other (accounts ▸ isOther)
    · obtain ⟨isLast, rfl⟩ := List.getElem?_eq_some_iff.mp isOther
      rw [List.length_singleton] at isLast
      have same : i = body.accounts.length := by omega
      subst same
      refine ⟨pair, .plain pair.xpriv, made, ?_⟩
      rw [List.getElem_singleton]
      rfl
  · rw [accounts]
    rfl

theorem Restored.keys_of_addAccount (restored : payload.Restored services.keys entropy seed count)
    (stretched : Phrase.seedOf entropy = .ok seed)
    (added : payload.addAccount services label none = .ok next) :
    count < 0x100000000 ∧ ∃ pair, services.keys.accountKeys seed .legacy (UInt32.ofNat count) =
      .ok pair := by
  obtain ⟨body, onlyBody, isSeed⟩ := restored.body
  have isBody := body?_of_bodies onlyBody
  have length : body.accounts.length = count := accounts_of_body isBody ▸ restored.length
  have schemes : Scheme.allFor payload.version = [.legacy] := by rw [restored.isThird]; rfl
  simp only [Payload.addAccount, requireBody_eq_ok.mpr isBody,
    fieldCipher_of_plain restored.isPlain, Body.revealSeed_of_plain isSeed stretched, length,
    schemes, liftError_ok, bind_ok] at added
  obtain ⟨_, _, added⟩ := bind_eq_ok.mp added
  split at added
  · cases added
  · rename_i number isNumber
    obtain ⟨inRange, rfl⟩ := accountNumber?_eq_some.mp isNumber
    obtain ⟨account, derived, _⟩ := bind_eq_ok.mp added
    obtain ⟨derivation, derived, _⟩ := bind_eq_ok.mp derived
    obtain ⟨_, pair, made, _⟩ := derive_eq_ok.mp derived
    exact ⟨inRange, pair, made⟩

end Payload

/-- The indexer answers every question about balances, and tells of transactions of the keys that
were used and were asked for, and of no others. -/
def Indexer.Reports (indexer : Indexer) (used : String → Prop) : Prop :=
  ∀ keys, ∃ answer, indexer.balances keys = .ok answer ∧ ∀ key,
    (∃ balance, (key, balance) ∈ answer.entries ∧ 0 < balance.transactions) ↔ key ∈ keys ∧ used key

/-- The legacy key that a seed has for an account was used. -/
def KeySource.Used (keys : KeySource) (seed : Bytes) (used : String → Prop) (i : Nat) : Prop :=
  i < 0x100000000 ∧ ∃ pair, keys.accountKeys seed .legacy (UInt32.ofNat i) = .ok pair ∧
    used pair.xpub

/-- The seed has legacy keys for so many accounts. -/
def KeySource.HasAccounts (keys : KeySource) (seed : Bytes) (count : Nat) : Prop :=
  count ≤ 0x100000000 ∧ ∀ i < count, ∃ pair,
    keys.accountKeys seed .legacy (UInt32.ofNat i) = .ok pair

namespace Wallet.Search

variable {workplace : Workplace} {label : String} {search : Search} {entropy seed : Bytes}
  {used : String → Prop} {last looked : Nat}

theorem tellsOfUse_iff {answer : SortedMap String Balance} {xpub : String}
    (tells : ∀ key, (∃ balance, (key, balance) ∈ answer.entries ∧ 0 < balance.transactions) ↔
      key ∈ [xpub] ∧ used key) :
    tellsOfUse answer = true ↔ used xpub := by
  simp only [tellsOfUse, SortedMap.values, List.any_map, List.any_eq_true, Function.comp_apply,
    decide_eq_true_eq]
  constructor
  · rintro ⟨⟨key, balance⟩, isIn, positive⟩
    obtain ⟨isAsked, isUsed⟩ := (tells key).mp ⟨balance, isIn, positive⟩
    exact List.mem_singleton.mp isAsked ▸ isUsed
  · intro isUsed
    obtain ⟨balance, isIn, positive⟩ := (tells xpub).mpr ⟨List.mem_singleton_self _, isUsed⟩
    exact ⟨_, isIn, positive⟩

/-- A search that has looked at the accounts up to `looked`, the last one in use of which is
`last`. -/
structure Found (search : Search) (keys : KeySource) (entropy seed : Bytes) (used : String → Prop)
    (last looked : Nat) : Prop where
  kept : search.kept.Restored keys entropy seed (last + 1)
  scanned : search.scanned.Restored keys entropy seed (looked + 1)
  gap : search.gap + last = looked
  isUsed : last = 0 ∨ keys.Used seed used last
  unused : ∀ i, last < i → i ≤ looked → ¬ keys.Used seed used i

section

variable {keys : KeySource} (found : search.Found keys entropy seed used last looked)
  {scanned : Payload} (restored : scanned.Restored keys entropy seed (looked + 1 + 1))
  {pair : AccountKeys} (made : keys.accountKeys seed .legacy (UInt32.ofNat (looked + 1)) = .ok pair)
  (requests : List Request)

include restored made

theorem Found.note_used (inRange : looked + 1 < 0x100000000) (isUsed : used pair.xpub) :
    Found { search with kept := scanned, scanned, gap := 0, requests } keys entropy seed used
      (looked + 1) (looked + 1) :=
  ⟨restored, restored, Nat.zero_add _, .inr ⟨inRange, pair, made, isUsed⟩,
    fun i above atMost => by omega⟩

include found

theorem Found.note_unused (unused : ¬ used pair.xpub) :
    Found { search with scanned, gap := search.gap + 1, requests } keys entropy seed used last
      (looked + 1) := by
  refine ⟨found.kept, restored, ?_, found.isUsed, fun i above atMost => ?_⟩
  · rw [← found.gap]
    exact Nat.add_right_comm _ _ _
  · rcases Nat.lt_or_eq_of_le atMost with before | rfl
    · exact found.unused i above (Nat.le_of_lt_succ before)
    · rintro ⟨_, other, isOther, otherUsed⟩
      cases made.symm.trans isOther
      exact unused otherUsed

end

theorem lastXpubs_of_added {payload : Payload} {accounts : List Account} {label : String}
    {pair : AccountKeys} (added : payload.accounts = accounts ++
      [.ofDerivation label ⟨.legacy, .plain pair.xpriv, pair.xpub⟩]) :
    lastXpubs payload = [pair.xpub] := by
  rw [lastXpubs, added, List.getLast?_concat]
  exact (Account.legacy_xpub? rfl).2

theorem labelled_next (labelled : Text.allBlank label = false) (number : Nat) :
    Text.allBlank s!"{label} {number}" = false :=
  Text.allBlank_append (Text.allBlank_append labelled _) _

/-- Looking at the next account: it is the last one in use, or one more that is not. -/
theorem Found.advance (found : search.Found workplace.services.keys entropy seed used last looked)
    (reports : workplace.indexer.Reports used) (stretched : Phrase.seedOf entropy = .ok seed)
    (labelled : Text.allBlank label = false) {count : Nat}
    (hasAccounts : workplace.services.keys.HasAccounts seed count)
    (inRange : looked + 1 < count) :
    ∃ later, search.advance workplace label = .ok later ∧
      ∃ next, later.Found workplace.services.keys entropy seed used next (looked + 1) := by
  obtain ⟨pair, made⟩ := hasAccounts.2 (looked + 1) inRange
  have small : looked + 1 < 0x100000000 := Nat.lt_of_lt_of_le inRange hasAccounts.1
  obtain ⟨scanned, added, restored, accounts⟩ :=
    found.scanned.addAccount stretched
      (labelled_next labelled (search.scanned.accounts.length + 1)) small made
  obtain ⟨answer, asked, tells⟩ := reports [pair.xpub]
  have told := tellsOfUse_iff tells
  simp only [Search.advance, added, lastXpubs_of_added accounts, asked]
  refine ⟨_, rfl, ?_⟩
  by_cases isUsed : used pair.xpub
  · rw [note, if_pos (told.mpr isUsed)]
    exact ⟨looked + 1, Found.note_used restored made _ small isUsed⟩
  · rw [note, if_neg (isUsed ∘ told.mp)]
    exact ⟨last, found.note_unused restored made _ isUsed⟩

/-- A search that has fuel for all accounts that could be in use ends behind enough unused ones. -/
theorem Found.run (reports : workplace.indexer.Reports used)
    (stretched : Phrase.seedOf entropy = .ok seed)
    (labelled : Text.allBlank label = false) {count fuel : Nat} (positive : 0 < count)
    (hasAccounts : workplace.services.keys.HasAccounts seed
      (count + workplace.config.recoveryGap.toNat))
    (nothingElse : ∀ i, count ≤ i → ¬ workplace.services.keys.Used seed used i)
    (found : search.Found workplace.services.keys entropy seed used last looked)
    (enough : count + workplace.config.recoveryGap.toNat ≤ looked + 1 + fuel) :
    ∃ final last looked, Search.run workplace label fuel search = .ok final ∧
      final.Found workplace.services.keys entropy seed used last looked ∧
      last + workplace.config.recoveryGap.toNat ≤ looked := by
  have below {search : Search} {last looked : Nat}
      (found : search.Found workplace.services.keys entropy seed used last looked) :
      last < count := by
    rcases found.isUsed with rfl | isUsed
    · exact positive
    · exact Nat.lt_of_not_le fun beyond => nothingElse last beyond isUsed
  induction fuel generalizing search last looked with
  | zero =>
    have := below found
    exact ⟨search, last, looked, rfl, found, by omega⟩
  | succ fuel ih =>
    have isBelow := below found
    have gap := found.gap
    rw [Search.run]
    split
    · obtain ⟨later, advanced, next, foundLater⟩ :=
        found.advance reports stretched labelled hasAccounts (by omega)
      rw [advanced]
      exact ih foundLater (by omega)
    · exact ⟨search, last, looked, rfl, found, by omega⟩

end Wallet.Search

end Coffer
