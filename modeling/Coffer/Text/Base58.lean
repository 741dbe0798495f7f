import Coffer.Hash.Sha256
/-!
# Base 58 with a checksum

A byte string as the base-58 digits of its number, with one digit zero for each zero byte in front.
The form with a checksum appends the first four bytes of a double SHA-256 digest.
-/

namespace Coffer.Base58

def alphabet : List Char := "123456789ABCDEFGHJKLMNPQRSTUVWXYZabcdefghijkmnopqrstuvwxyz".toList

/-- The digits of a number in a base above one, least significant first. -/
def digits (base value : Nat) : List Nat :=
  if _small : value = 0 ∨ base < 2 then []
  else value % base :: digits base (value / base)
termination_by value
decreasing_by exact Nat.div_lt_self (by omega) (by omega)

/-- The number with the given digits, least significant first. -/
def ofDigits (base : Nat) (digits : List Nat) : Nat :=
  digits.foldr (fun digit value => digit + base * value) 0

def digitChar (value : Nat) : Char := alphabet.getD value '1'

def encode (bytes : Bytes) : String :=
  let zeros := (bytes.takeWhile (· == 0)).length
  String.ofList (List.replicate zeros '1' ++ ((digits 58 bytes.toNat).reverse.map digitChar))

def decode? (text : String) : Option Bytes := do
  let values ← text.toList.mapM fun c => alphabet.idxOf? c
  let zeros := (values.takeWhile (· == 0)).length
  let bytes := (digits 256 (ofDigits 58 values.reverse)).reverse.map UInt8.ofNat
  return List.replicate zeros 0 ++ bytes

def guardOf (bytes : Bytes) : Bytes := (Sha256.digest (Sha256.digest bytes)).take 4

def encodeChecked (bytes : Bytes) : String := encode (bytes ++ guardOf bytes)

def decodeChecked? (text : String) : Option Bytes := do
  let all ← decode? text
  let bytes := all.take (all.length - 4)
  if 4 ≤ all.length ∧ all.drop (all.length - 4) = guardOf bytes then some bytes else none

end Coffer.Base58
