import Coffer.Json.Reader
/-!
# Numbers of documents

Whole numbers are written in decimal without a sign and accepted in no other spelling: neither a
fraction nor an exponent nor a minus is allowed, even where the value is whole.
-/

namespace Coffer.Json

def decimal (value : Nat) : Bytes := (Nat.toDigits 10 value).map fun c => UInt8.ofNat c.toNat

def digitsValue (digits : Bytes) : Nat :=
  digits.foldl (fun value byte => 10 * value + (byte.toNat - 0x30)) 0

/-- The number below `limit` that a spelling writes in canonical decimal. -/
def spelledNat? (limit : Nat) (spelling : Bytes) : Option Nat :=
  let value := digitsValue spelling
  if spelling = decimal value ∧ value < limit then some value else none

def ofNat (value : Nat) : Json := .number (decimal value)

def nat? (limit : Nat) : Json → Option Nat
  | .number spelling => spelledNat? limit spelling
  | _ => none

def word32? (json : Json) : Option UInt32 := (json.nat? 0x100000000).map UInt32.ofNat

def word64? (json : Json) : Option UInt64 := (json.nat? 0x10000000000000000).map UInt64.ofNat

def bool? : Json → Option Bool
  | .bool value => some value
  | _ => none

/-- The digits of the significand of an unsigned spelling, and the power of ten that they count. -/
def significand (spelling : Bytes) : Bytes × Int :=
  let whole := spelling.takeWhile isDigit
  let rest := spelling.dropWhile isDigit
  let fraction := match rest with
    | 0x2e :: later => later.takeWhile isDigit
    | _ => []
  let rest := match rest with
    | 0x2e :: later => later.dropWhile isDigit
    | _ => rest
  let exponent : Int := match rest with
    | _ :: 0x2d :: digits => - (digitsValue digits : Int)
    | _ :: 0x2b :: digits => digitsValue digits
    | _ :: digits => digitsValue digits
    | [] => 0
  (whole ++ fraction, exponent - fraction.length)

/-- Whether the nearest double-precision number to a spelled number is finite. -/
def isFinite (spelling : Bytes) : Bool :=
  let unsigned := match spelling with
    | 0x2d :: rest => rest
    | _ => spelling
  let (digits, exponent) := significand unsigned
  let digits := digits.dropWhile (· == 0x30)
  if digits.isEmpty then true
  else
    let magnitude := digits.length + exponent
    if magnitude < 300 then true
    else if 310 < magnitude then false
    else
      let limit := Nat.pow 2 1024 - Nat.pow 2 970
      if 0 ≤ exponent then digitsValue digits * Nat.pow 10 exponent.toNat < limit
      else digitsValue digits < limit * Nat.pow 10 (-exponent).toNat

end Coffer.Json
