import Coffer.Indexer
import Coffer.Payload.Basic
/-!
# Cached balances

The last answer about each key, adjusted by what the wallet itself has sent and received since. A
failed question leaves the cache as it was.
-/

namespace Coffer

structure BalanceCache where
  entries : SortedMap String Balance
  deriving DecidableEq

namespace BalanceCache

def empty : BalanceCache := ⟨.empty⟩

/-- The cached balance of a key; zero if it was never asked for. -/
def balance (cache : BalanceCache) (key : String) : Balance := (cache.entries.find? key).getD .zero

/-- The entry of each key that was asked for; zero if the answer has none. -/
def resolve (keys : List String) (answer : SortedMap String Balance) : SortedMap String Balance :=
  .ofList (keys.map fun key => (key, (answer.find? key).getD .zero))

/-- The cache with the entries of an answer in place of older ones. -/
def absorb (cache : BalanceCache) (resolved : SortedMap String Balance) : BalanceCache :=
  ⟨resolved.entries.foldl (fun map entry => map.insert entry.1 entry.2) cache.entries⟩

/-- Asks for balances in one batch; the questions that were put come last. Without keys nothing is
asked. -/
def fetch (cache : BalanceCache) (indexer : Indexer) (keys : List String) :
    Except WalletError (SortedMap String Balance) × BalanceCache × List Request :=
  if keys.isEmpty then (.ok .empty, cache, [])
  else match indexer.balances keys with
    | .error cause => (.error (.transport (.batchFailed cause.message)), cache, [.balances keys])
    | .ok answer =>
      let resolved := resolve keys answer
      (.ok resolved, cache.absorb resolved, [.balances keys])

def accountTotal (cache : BalanceCache) (account : Account) : Balance :=
  account.xpubs.foldl (fun total entry => total.merge (cache.balance entry.2)) .zero

def importedTotal (cache : BalanceCache) (payload : Payload) : UInt64 :=
  payload.activeImported.foldl (fun total entry =>
    satAdd64 total (cache.balance entry.address).spendable) 0

/-- What the accounts and imported addresses in use can spend. -/
def walletTotal (cache : BalanceCache) (payload : Payload) : UInt64 :=
  payload.activeAccounts.foldl
    (fun total entry => satAdd64 total (cache.accountTotal entry.1).spendable)
    (cache.importedTotal payload)

/-- The cache after the wallet itself spent or received with a key. -/
def adjust (cache : BalanceCache) (key : String) (amount : Int) : BalanceCache :=
  ⟨cache.entries.insert key ((cache.balance key).adjust amount)⟩

end BalanceCache

end Coffer
