import Coffer.Bytes
import Coffer.Text.Quoted
/-!
# Hexadecimal text

Two digits a byte, the high one first. Writing uses lower case; reading takes either case, checks
for an odd number of digits first and then names the first character that is no digit, by its place
in the UTF-8 encoding of the text.
-/

namespace Coffer.Hex

/-- Why a text is no hexadecimal byte string. -/
inductive Fault where
  | oddLength
  | invalid (byte : UInt8) (position : Nat)
  deriving DecidableEq, Repr

/-- The wording of a fault. A byte is shown as the character of that number. -/
def Fault.message : Fault → String
  | .oddLength => "Odd number of digits"
  | .invalid byte position =>
    "Invalid character " ++ Text.quotedSingle (Char.ofNat byte.toNat) ++ s!" at position {position}"

def digit (value : UInt8) : UInt8 := if value < 10 then 48 + value else 87 + value

def value? (byte : UInt8) : Option UInt8 :=
  if 48 ≤ byte && byte ≤ 57 then some (byte - 48)
  else if 97 ≤ byte && byte ≤ 102 then some (byte - 87)
  else if 65 ≤ byte && byte ≤ 70 then some (byte - 55)
  else none

def digits (bytes : Bytes) : Bytes :=
  bytes.flatMap fun byte => [digit (byte / 16), digit (byte % 16)]

def encode (bytes : Bytes) : String := (digits bytes).asciiText

/-- The byte string that pairs of digits write, the first of them at `position`. -/
def decodeFrom (position : Nat) : Bytes → Except Fault Bytes
  | [] => .ok []
  | [byte] => .error (.invalid byte position)
  | high :: low :: rest =>
    match value? high, value? low with
    | none, _ => .error (.invalid high position)
    | some _, none => .error (.invalid low (position + 1))
    | some highValue, some lowValue =>
      match decodeFrom (position + 2) rest with
      | .ok bytes => .ok ((16 * highValue + lowValue) :: bytes)
      | .error fault => .error fault

def decode (text : String) : Except Fault Bytes :=
  let bytes := Bytes.ofText text
  if bytes.length % 2 = 1 then .error .oddLength else decodeFrom 0 bytes

end Coffer.Hex
