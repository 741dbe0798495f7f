import Coffer.Balance
import Coffer.Payload.Basic
/-!
# Address indexes

For every extended key and scheme, the next unused receive and change index, and the receive indexes
that are reserved under a label. Counters only move forward; reservations follow the labels of the
payload.
-/

namespace Coffer

/-- The indexes of one extended key under one scheme. -/
structure IndexState where
  nextReceive : UInt32
  nextChange : UInt32
  reserved : SortedMap UInt32 String
  deriving DecidableEq

namespace IndexState

def fresh : IndexState := ⟨0, 0, .empty⟩

/-- The first index from `index` on that is not among ascending entries; nothing if there is none
left. -/
def firstFreeFrom (index : UInt32) : List (UInt32 × String) → Option UInt32
  | [] => some index
  | (key, _) :: later =>
    if key < index then firstFreeFrom index later
    else if key = index then
      if index = 0xffffffff then none else firstFreeFrom (index + 1) later
    else some index

/-- The first receive index from the counter on that is not reserved. Where none is left, the search
for it does not end: it stays at the last index of all. -/
def firstFree? (state : IndexState) : Option UInt32 :=
  firstFreeFrom state.nextReceive state.reserved.entries

def counter (state : IndexState) : Chain → UInt32
  | .receive => state.nextReceive
  | .change => state.nextChange

def advance (state : IndexState) (chain : Chain) (observed : UInt32) : IndexState :=
  match chain with
  | .receive => { state with nextReceive := max state.nextReceive (satAdd32 observed 1) }
  | .change => { state with nextChange := max state.nextChange (satAdd32 observed 1) }

def observe (state : IndexState) (usage : Usage) : IndexState :=
  { state with
    nextReceive := max state.nextReceive usage.receive
    nextChange := max state.nextChange usage.change }

end IndexState

/-- The indexes of all extended keys, by scheme. -/
structure Allocator where
  legacy : SortedMap String IndexState
  segwit : SortedMap String IndexState
  deriving DecidableEq

namespace Allocator

def empty : Allocator := ⟨.empty, .empty⟩

def states (allocator : Allocator) : Scheme → SortedMap String IndexState
  | .legacy => allocator.legacy
  | .segwit => allocator.segwit

def state (allocator : Allocator) (xpub : String) (scheme : Scheme) : IndexState :=
  ((allocator.states scheme).find? xpub).getD .fresh

def modify (allocator : Allocator) (xpub : String) (scheme : Scheme)
    (change : IndexState → IndexState) : Allocator :=
  let next := change (allocator.state xpub scheme)
  match scheme with
  | .legacy => { allocator with legacy := allocator.legacy.insert xpub next }
  | .segwit => { allocator with segwit := allocator.segwit.insert xpub next }

theorem state_modify (allocator : Allocator) (xpub wanted : String) (scheme other : Scheme)
    (change : IndexState → IndexState) :
    (allocator.modify xpub scheme change).state wanted other =
      if wanted = xpub ∧ other = scheme then change (allocator.state xpub scheme)
      else allocator.state wanted other := by
  cases scheme <;> cases other <;> by_cases same : wanted = xpub <;>
    simp [modify, state, states, SortedMap.find?_insert, same]

def nextFree (allocator : Allocator) (xpub : String) (scheme : Scheme) :
    Except WalletError UInt32 :=
  orFail .endless (allocator.state xpub scheme).firstFree?

def nextChange (allocator : Allocator) (xpub : String) (scheme : Scheme) : UInt32 :=
  (allocator.state xpub scheme).nextChange

def nextIndex (allocator : Allocator) (xpub : String) (scheme : Scheme) :
    Chain → Except WalletError UInt32
  | .receive => allocator.nextFree xpub scheme
  | .change => .ok (allocator.nextChange xpub scheme)

def advance (allocator : Allocator) (xpub : String) (scheme : Scheme) (chain : Chain)
    (observed : UInt32) : Allocator :=
  allocator.modify xpub scheme fun state => state.advance chain observed

def observe (allocator : Allocator) (xpub : String) (scheme : Scheme) (usage : Usage) : Allocator :=
  allocator.modify xpub scheme fun state => state.observe usage

def reserve (allocator : Allocator) (xpub : String) (scheme : Scheme)
    (labels : SortedMap UInt32 String) : Allocator :=
  allocator.modify xpub scheme fun state => { state with reserved := labels }

/-- Takes over the labels of an account: its default chain has them, its other chains have none. -/
def syncAccount (allocator : Allocator) (account : Account) : Allocator :=
  let kept := match account.defaultXpub? with
    | some xpub => allocator.reserve xpub account.defaultScheme account.addressLabels
    | none => allocator
  let others :=
    account.derivations.filter fun derivation => derivation.scheme ≠ account.defaultScheme
  others.foldl (fun allocator derivation =>
    allocator.reserve derivation.xpub derivation.scheme .empty) kept

/-- Takes over the labels of every account, one after the other. -/
def syncLabels (allocator : Allocator) (payload : Payload) : Allocator :=
  payload.accounts.foldl syncAccount allocator

def observeReport (report : SortedMap String Usage) (allocator : Allocator)
    (derivation : Derivation) : Allocator :=
  match report.find? derivation.xpub with
  | some usage => allocator.observe derivation.xpub derivation.scheme usage
  | none => allocator

/-- Records a report about the accounts of a payload and takes over their labels. -/
def rebuild (allocator : Allocator) (payload : Payload) (report : SortedMap String Usage) :
    Allocator :=
  let derivations := payload.accounts.flatMap Account.derivations
  (derivations.foldl (observeReport report) allocator).syncLabels payload

end Allocator

end Coffer
