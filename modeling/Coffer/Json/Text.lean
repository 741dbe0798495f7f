import Coffer.Json.Reader
/-!
# Strings of documents

A string is spelled with the fewest escapes: the quote, the backslash and the control characters, of
which five have a short escape. Reading accepts every escape of the grammar; two escaped surrogates
make one character, and a lone one makes the string unusable, as bytes do that are no UTF-8.
-/

namespace Coffer.Json

def escapeByte (byte : UInt8) : Bytes :=
  if byte = 0x22 then [0x5c, 0x22]
  else if byte = 0x5c then [0x5c, 0x5c]
  else if byte = 0x08 then [0x5c, 0x62]
  else if byte = 0x0c then [0x5c, 0x66]
  else if byte = 0x0a then [0x5c, 0x6e]
  else if byte = 0x0d then [0x5c, 0x72]
  else if byte = 0x09 then [0x5c, 0x74]
  else if byte < 0x20 then
    [0x5c, 0x75, 0x30, 0x30, 0x30 + byte / 16, if byte % 16 < 10 then
      0x30 + byte % 16 else 0x57 + byte % 16]
  else [byte]

def escape (text : String) : Bytes := (Bytes.ofText text).flatMap escapeByte

def hexValue (byte : UInt8) : Nat :=
  if byte ≤ 0x39 then byte.toNat - 0x30 else if byte ≤ 0x46 then
    byte.toNat - 0x37 else byte.toNat - 0x57

def unit (a b c d : UInt8) : Nat :=
  ((hexValue a * 16 + hexValue b) * 16 + hexValue c) * 16 + hexValue d

def shortEscape (byte : UInt8) : UInt8 :=
  if byte = 0x62 then 0x08 else if byte = 0x66 then 0x0c else if byte = 0x6e then 0x0a
  else if byte = 0x72 then 0x0d else if byte = 0x74 then 0x09 else byte

def isLeading (unit : Nat) : Bool := 0xd800 ≤ unit && unit < 0xdc00

def isTrailing (unit : Nat) : Bool := 0xdc00 ≤ unit && unit < 0xe000

def encodePoint (code : Nat) : Bytes := Bytes.ofText (String.singleton (Char.ofNat code))

/-- The bytes that a spelling stands for. The leading code unit of a pair waits in `pending` for the
trailing one, which has to follow at once. -/
def unescape (pending : Option Nat) : Bytes → Option Bytes
  | [] => if pending.isSome then none else some []
  | 0x5c :: 0x75 :: a :: b :: c :: d :: rest =>
    let code := unit a b c d
    match pending with
    | some leading =>
      if isTrailing code then
        (unescape none rest).map
          (encodePoint (0x10000 + (leading - 0xd800) * 0x400 + (code - 0xdc00)) ++ ·)
      else none
    | none =>
      if isLeading code then unescape (some code) rest
      else if isTrailing code then none
      else (unescape none rest).map (encodePoint code ++ ·)
  | 0x5c :: escaped :: rest =>
    if pending.isSome then none else (unescape none rest).map (shortEscape escaped :: ·)
  | byte :: rest =>
    if pending.isSome then none else (unescape none rest).map (byte :: ·)

def spelledText? (spelling : Bytes) : Option String := (unescape none spelling).bind Bytes.toText?

def ofText (text : String) : Json := .text (escape text)

/-- The text that a document holds, if it is a string that can be used. -/
def text? : Json → Option String
  | .text spelling => spelledText? spelling
  | _ => none

end Coffer.Json
