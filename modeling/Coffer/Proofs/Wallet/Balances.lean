import Coffer.Proofs.BalanceCache
import Coffer.Proofs.Wallet.Steps
import Coffer.Wallet.Balances
/-!
# Refreshed balances

A refresh asks about the very keys that the total is made of, so that nothing of what was cached
before is left in it. The total is the exact sum of what was answered, cut off once, although it is
summed up account by account.
-/

namespace Coffer

open BalanceCache (reported)

theorem sum_filter {α : Type} (items : List α) (without : α → Bool) (amount : α → Nat) :
    ((items.filter fun item => !without item).map amount).sum =
      (items.map fun item => if without item then 0 else amount item).sum := by
  induction items with
  | nil => rfl
  | cons item others ih =>
    rw [List.map_cons, List.sum_cons, ← ih]
    cases isOut : without item <;> simp [isOut]

/-- What the keys of an account can spend according to an answer, as an exact sum. -/
def Account.spendableIn (account : Account) (answer : SortedMap String Balance) : Nat :=
  (account.xpubs.map fun entry => (reported answer entry.2).spendable.toNat).sum

namespace Payload

/-- What a wallet can spend according to an answer, as an exact sum in which nothing that is
archived counts. -/
def spendableIn (payload : Payload) (answer : SortedMap String Balance) : Nat :=
  (payload.accounts.map fun account => if account.archived then
    0 else account.spendableIn answer).sum +
    (payload.imported.map fun entry => if entry.archived then
      0 else (reported answer entry.address).spendable.toNat).sum

variable {payload : Payload} {answer : SortedMap String Balance}

theorem map_activeAccounts {α : Type} (payload : Payload) (property : Account → α) :
    (payload.activeAccounts.map fun entry => property entry.1) =
      (payload.accounts.filter fun account => !account.archived).map property := by
  have inUse : payload.activeAccounts.map Prod.fst = payload.accounts.filter fun account =>
      !account.archived := by
    have places := payload.accounts.zipIdx_map_fst 0
    conv => rhs; rw [← places, List.filter_map]
    rfl
  rw [← inUse, List.map_map]
  rfl

theorem spendableIn_eq (payload : Payload) (answer : SortedMap String Balance) :
    payload.spendableIn answer =
      (payload.activeAccounts.map fun entry => entry.1.spendableIn answer).sum +
      (payload.activeImported.map fun entry =>
        (reported answer entry.address).spendable.toNat).sum := by
  rw [map_activeAccounts payload fun account => account.spendableIn answer, activeImported,
    sum_filter, sum_filter, spendableIn]

end Payload

namespace BalanceCache

variable {cache : BalanceCache} {answer : SortedMap String Balance} {payload : Payload}

/-- The keys that a total is made of have the cached balances of an answer. -/
def Tells (cache : BalanceCache) (answer : SortedMap String Balance) (keys : List String) : Prop :=
  ∀ key ∈ keys, cache.balance key = reported answer key

namespace Tells

variable (tells : cache.Tells answer (Wallet.balanceKeys payload))

include tells

theorem accountTotal {account : Account} {position : Nat}
    (inUse : (account, position) ∈ payload.activeAccounts) :
    cache.accountTotal account = .sum (account.xpubs.map fun entry => reported answer entry.2) := by
  have same : account.xpubs.map (fun entry => cache.balance entry.2) =
      account.xpubs.map fun entry => reported answer entry.2 := by
    refine List.map_congr_left fun entry isIn => tells entry.2 ?_
    exact List.mem_append_left _
      (List.mem_flatMap.mpr ⟨(account, position), inUse, List.mem_map_of_mem isIn⟩)
  rw [BalanceCache.accountTotal, ← same, ← Balance.foldl_merge, List.foldl_map]

theorem importedTotal : cache.importedTotal payload =
    capped (payload.activeImported.map fun entry =>
      (reported answer entry.address).spendable.toNat).sum := by
  have each : ∀ entry ∈ payload.activeImported, (cache.balance entry.address).spendable =
      capped (reported answer entry.address).spendable.toNat := by
    intro entry inUse
    rw [tells entry.address (List.mem_append_right _ (List.mem_map_of_mem inUse)), capped_toNat]
  rw [BalanceCache.importedTotal, ← Nat.zero_add (List.sum _), ← foldl_satAdd64 each]
  rfl

theorem walletTotal : cache.walletTotal payload = capped (payload.spendableIn answer) := by
  have each : ∀ entry ∈ payload.activeAccounts, (cache.accountTotal entry.1).spendable =
      capped (entry.1.spendableIn answer) := by
    intro entry inUse
    rw [tells.accountTotal inUse, Balance.sum, List.map_map]
    rfl
  rw [BalanceCache.walletTotal, tells.importedTotal, foldl_satAdd64 each,
    Payload.spendableIn_eq, Nat.add_comm]

end Tells

end BalanceCache

namespace Wallet

variable {wallet : Wallet} {payload : Payload} {answer : SortedMap String Balance}

theorem total_of_payload (isPayload : wallet.payload = .ok payload) :
    wallet.total = wallet.balances.walletTotal payload := by
  obtain ⟨committed, isCommitted, rfl⟩ := payload_eq_ok isPayload
  rw [total, payload?, isCommitted]
  rfl

theorem accountBalance_of_payload (isPayload : wallet.payload = .ok payload) {index : UInt64}
    {account : Account} (isAccount : payload.account index = .ok account) :
    wallet.accountBalance index = .ok (wallet.balances.accountTotal account) := by
  rw [accountBalance, isPayload, bind_ok, isAccount, liftError_ok, bind_ok, pure_eq_ok]

/-- What a refresh tells and leaves is what the question about everything in use does. -/
theorem refreshBalances_of_payload (wallet : Wallet) (workplace : Workplace)
    (isPayload : wallet.payload = .ok payload) :
    (wallet.refreshBalances workplace).1 =
      (wallet.balances.fetch workplace.indexer (balanceKeys payload)).1.map
      (fun _ => (wallet.refreshBalances workplace).2.1.total) ∧
    (wallet.refreshBalances workplace).2.1 =
      { wallet with
        balances := (wallet.balances.fetch workplace.indexer (balanceKeys payload)).2.1 } := by
  have left : (wallet.refreshBalances workplace).2.1 =
      { wallet with
        balances := (wallet.balances.fetch workplace.indexer (balanceKeys payload)).2.1 } := by
    rw [refreshBalances, isPayload]
  have stays : (wallet.refreshBalances workplace).2.1.payload = .ok payload := by
    rw [left, ← isPayload]; rfl
  refine ⟨?_, left⟩
  rw [total_of_payload stays, left, refreshBalances, isPayload]

/-- A refresh reconciles a wallet with an answer, whatever was cached before. Let the question about
everything in use be answered, or be about nothing. Then the refresh tells the exact sum of what can
be spent according to the answer, in which nothing archived counts, cut off at the largest word; the
wallet has this total from then on, and every account in use the fieldwise sum over its keys, cut
off in the same way. Where the question fails, so does the refresh, and the wallet is as it was. -/
theorem refresh_reconciles_total (wallet : Wallet) (workplace : Workplace) {payload : Payload}
    (isPayload : wallet.payload = .ok payload) :
    (∀ answer, balanceKeys payload = [] ∨
      workplace.indexer.balances (balanceKeys payload) = .ok answer →
      (wallet.refreshBalances workplace).1 = .ok (capped (payload.spendableIn answer)) ∧
      (wallet.refreshBalances workplace).2.1.total = capped (payload.spendableIn answer) ∧
      ∀ index account, payload.account index = .ok account → account.archived = false →
        (wallet.refreshBalances workplace).2.1.accountBalance index =
          .ok (.sum (account.xpubs.map fun entry => reported answer entry.2))) ∧
    ∀ cause, balanceKeys payload ≠ [] →
      workplace.indexer.balances (balanceKeys payload) = .error cause →
      (wallet.refreshBalances workplace).1 = .error (.transport (.batchFailed cause.message)) ∧
      (wallet.refreshBalances workplace).2.1 = wallet := by
  obtain ⟨told, left⟩ := wallet.refreshBalances_of_payload workplace isPayload
  constructor
  · intro answer answered
    obtain ⟨resolved, absorbed⟩ := wallet.balances.fetch_of_answer answered
    have stays : (wallet.refreshBalances workplace).2.1.payload = .ok payload := by
      rw [left, ← isPayload]; rfl
    have tells : (wallet.refreshBalances workplace).2.1.balances.Tells answer
        (balanceKeys payload) := by
      intro key isAsked
      rw [left, wallet.balances.balance_fetch answered, if_pos isAsked]
    have isTotal : (wallet.refreshBalances workplace).2.1.total =
        capped (payload.spendableIn answer) := by
      rw [total_of_payload stays, tells.walletTotal]
    refine ⟨?_, isTotal, fun index account isAccount inUse => ?_⟩
    · rw [told, resolved, map_ok, isTotal]
    · have isActive : (account, index.toNat) ∈ payload.activeAccounts :=
        List.mem_filter.mpr ⟨List.mem_zipIdx_iff_getElem?.mpr (Payload.account_eq_ok.mp isAccount),
          by rw [inUse]; rfl⟩
      rw [accountBalance_of_payload stays isAccount, tells.accountTotal isActive]
  · intro cause asks failed
    obtain ⟨isFailure, same⟩ := wallet.balances.fetch_of_failure failed
    constructor
    · rw [told, isFailure asks, map_error]
    · rw [left, same]

/-- A wallet with two accounts of two keys each, the second one archived, and two addresses, one of
them archived. -/
def mixed : Payload :=
  { Payload.flat "guid" "key" 7 with
    version := .v4
    bodies := [⟨.plain "", false, 0,
      [⟨"main", false, .segwit,
        [⟨.legacy, .plain "prv-a", "pub-a"⟩, ⟨.segwit, .plain "prv-b", "pub-b"⟩], .empty⟩,
        ⟨"old", true, .segwit, [⟨.legacy, .plain "prv-c", "pub-c"⟩,
          ⟨.segwit, .plain "prv-d", "pub-d"⟩], .empty⟩]⟩]
    imported :=
      [.watchOnly "live" "", { ImportedAddress.watchOnly "gone" "" with archived := true }] }

/-- An indexer that knows the first key of `mixed` with all that a word holds, its live address, and
both archived keys. -/
def rich : Indexer :=
  .ofTables {
    balances :=
      .ofList [("pub-a", ⟨0xffffffffffffffff, 5, 1⟩), ("live", ⟨3, 3, 1⟩), ("pub-c", ⟨9, 9, 1⟩)]
    extra := .ofList [("gone", ⟨9, 9, 1⟩)] }

/-- In the total of such a wallet neither what was cached before nor what is archived counts. -/
theorem refresh_reconciles_total_mixed :
    let wallet : Wallet :=
      ⟨⟨some ⟨mixed, .ofText ""⟩, some "password", .empty⟩, BalanceCache.empty.adjust "pub-b" 12⟩
    let workplace : Workplace := { Toy.workplace with indexer := rich }
    wallet.payload = .ok mixed ∧
      (∃ answer, workplace.indexer.balances (balanceKeys mixed) = .ok answer) ∧
      (wallet.refreshBalances workplace).1 = .ok 0xffffffffffffffff ∧
      (wallet.refreshBalances workplace).2.1.total = 0xffffffffffffffff ∧
      (wallet.refreshBalances workplace).2.1.accountBalance 0 = .ok ⟨0xffffffffffffffff, 5, 1⟩ := by
  intro wallet workplace
  have isPayload : wallet.payload = .ok mixed := rfl
  obtain ⟨reconciled, _⟩ := refresh_reconciles_total wallet workplace isPayload
  obtain ⟨told, isTotal, accounts⟩ := reconciled _ (.inr rfl)
  refine ⟨isPayload, ⟨_, rfl⟩, told.trans ?_, isTotal.trans ?_, (accounts 0 _ rfl rfl).trans ?_⟩
  · decide +kernel
  · decide +kernel
  · decide +kernel

end Wallet

end Coffer
