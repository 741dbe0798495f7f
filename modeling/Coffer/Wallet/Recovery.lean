import Coffer.Payload.Accounts
import Coffer.Wallet.Basic
/-!
# Recovery

A wallet is restored from its backup phrase: the first account always, further ones in order up to
the last one with transactions. The search ends after a number of unused accounts in a row.
-/

namespace Coffer.Wallet

structure Search where
  kept : Payload
  scanned : Payload
  gap : Nat
  requests : List Request

namespace Search

def start (payload : Payload) : Search := ⟨payload, payload, 0, []⟩

def lastXpubs (payload : Payload) : List String :=
  match payload.accounts.getLast? with
  | some account => account.xpubs.map Prod.snd
  | none => []

def tellsOfUse (answer : SortedMap String Balance) : Bool :=
  answer.values.any fun balance => 0 < balance.transactions

def note (search : Search) (scanned : Payload) (answer : SortedMap String Balance) : Search :=
  if tellsOfUse answer then { search with kept := scanned, scanned, gap := 0 }
  else { search with scanned, gap := search.gap + 1 }

/-- Looks at one more account. A failure comes with the questions that led to it. -/
def advance (workplace : Workplace) (label : String) (search : Search) :
    Except (WalletError × List Request) Search :=
  let accountLabel := s!"{label} {search.scanned.accounts.length + 1}"
  match search.scanned.addAccount workplace.services accountLabel none with
  | .error cause => .error (cause, search.requests)
  | .ok scanned =>
    let keys := lastXpubs scanned
    let requests := search.requests ++ [.balances keys]
    match workplace.indexer.balances keys with
    | .error cause => .error (.transport (.batchFailed cause.message), requests)
    | .ok answer => .ok (note { search with requests } scanned answer)

/-- Looks at accounts until enough of them in a row are unused, at most `fuel` of them. -/
def run (workplace : Workplace) (label : String) : (fuel : Nat) → Search →
    Except (WalletError × List Request) Search
  | 0, search => .ok search
  | fuel + 1, search =>
    if search.gap < workplace.config.recoveryGap.toNat then
      match search.advance workplace label with
      | .error failure => .error failure
      | .ok search => run workplace label fuel search
    else .ok search

/-- More accounts than have a number in the tree of keys; the search fails before it has looked at
that many. -/
def fuel : Nat := 0x100000001

end Search

def recover (wallet : Wallet) (workplace : Workplace) (store : Store) (draw : Draw)
    (phrase label email password : String) : Reply Committed :=
  let restored := do
    let entropy ← liftError .derivation (Phrase.restore phrase)
    Payload.hierarchical workplace.services.keys draw.guid draw.sharedKey label entropy
      workplace.config.iterations
  match restored with
  | .error cause => wallet.refuse store cause
  | .ok payload =>
    match Search.run workplace label Search.fuel (.start payload) with
    | .error (cause, requests) => ⟨.error cause, wallet, store, requests⟩
    | .ok search =>
      let reply := wallet.settle
        (wallet.synchronizer.saveNew workplace.surroundings store search.kept password email)
      { reply with requests := search.requests }

end Coffer.Wallet
