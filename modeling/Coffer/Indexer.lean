import Coffer.Balance
import Coffer.Error
import Coffer.SortedMap
/-!
# Observers of the chain

An indexer answers two kinds of batched questions: about balances of extended keys and addresses,
and about the indexes that are in use. It may leave out keys that it does not know and add some that
were not asked for.
-/

namespace Coffer

structure Indexer where
  balances : (keys : List String) → Except TransportError (SortedMap String Balance)
  usage : (xpubs : List String) → Except TransportError (SortedMap String Usage)

/-- A question that was put to an indexer. -/
inductive Request where
  | balances (keys : List String)
  | usage (xpubs : List String)
  deriving DecidableEq, Repr

namespace Indexer

def select {α : Type} (table : SortedMap String α) (keys : List String) : SortedMap String α :=
  .ofList (keys.filterMap fun key => (table.find? key).map fun value => (key, value))

/-- What an indexer can be made to answer. -/
structure Tables where
  balances : SortedMap String Balance := .empty
  /-- Balances that every answer about balances has, asked for or not. -/
  extra : SortedMap String Balance := .empty
  usage : SortedMap String Usage := .empty
  failure : Option TransportError := none

def ofTables (tables : Tables) : Indexer where
  balances keys :=
    match tables.failure with
    | some cause => .error cause
    | none =>
      .ok (tables.extra.entries.foldl (fun map entry => map.insert entry.1 entry.2)
        (select tables.balances keys))
  usage xpubs :=
    match tables.failure with
    | some cause => .error cause
    | none => .ok (select tables.usage xpubs)

end Indexer

end Coffer
