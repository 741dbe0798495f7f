import Coffer.Saturating
/-!
# Balances

What is known of one key: what it can spend, what it ever received and how many transactions touched
it. All sums stop at the largest 64-bit number, and spending stops at zero.
-/

namespace Coffer

/-- The balance of a key, in satoshis. -/
structure Balance where
  spendable : UInt64
  received : UInt64
  transactions : UInt64
  deriving DecidableEq, Repr

namespace Balance

def zero : Balance := ⟨0, 0, 0⟩

def merge (left right : Balance) : Balance :=
  ⟨satAdd64 left.spendable right.spendable, satAdd64 left.received right.received,
    satAdd64 left.transactions right.transactions⟩

/-- A number of satoshis, brought into the range of 64-bit numbers. -/
def clamp (value : Int) : UInt64 := UInt64.ofNat (min value.toNat 0xffffffffffffffff)

/-- The balance after satoshis were received (positive) or spent (negative). Only what is received
counts as such, and the number of transactions is left to the next report. -/
def adjust (balance : Balance) (amount : Int) : Balance :=
  ⟨clamp (balance.spendable.toNat + amount), clamp (balance.received.toNat + max amount 0),
    balance.transactions⟩

end Balance

/-- The next unused indexes of an extended key, as an observer of the chain reports them. -/
structure Usage where
  receive : UInt32
  change : UInt32
  deriving DecidableEq, Repr

end Coffer
