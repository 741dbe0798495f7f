import Coffer.Json.Basic
/-!
# Reading documents

The grammar of RFC 8259 and nothing else: white space is space, tab, line feed and return; a number
has no leading zero and no sign but a minus; a string holds no raw control character. Spellings are
kept, so an escape is only looked at to find the end of its string.
-/

namespace Coffer.Json

def isSpace (byte : UInt8) : Bool := byte == 0x20 || byte == 0x09 || byte == 0x0a || byte == 0x0d

def skipSpace (input : Bytes) : Bytes := input.dropWhile isSpace

def isDigit (byte : UInt8) : Bool := 0x30 ≤ byte && byte ≤ 0x39

def isHexDigit (byte : UInt8) : Bool :=
  isDigit byte || (0x61 ≤ byte && byte ≤ 0x66) || (0x41 ≤ byte && byte ≤ 0x46)

/-- The bytes that make an escape on their own after a backslash. -/
def isEscape (byte : UInt8) : Bool :=
  byte == 0x22 || byte == 0x5c || byte == 0x2f || byte == 0x62 || byte == 0x66 || byte == 0x6e ||
  byte == 0x72 || byte == 0x74

/-- The spelling of a string whose opening quote is behind, and what follows its closing quote. -/
def readText : Bytes → Option (Bytes × Bytes)
  | [] => none
  | 0x22 :: rest => some ([], rest)
  | 0x5c :: 0x75 :: a :: b :: c :: d :: rest =>
    if isHexDigit a && isHexDigit b && isHexDigit c && isHexDigit d then
      (readText rest).map fun (spelling, rest) =>
        (0x5c :: 0x75 :: a :: b :: c :: d :: spelling, rest)
    else none
  | 0x5c :: escaped :: rest =>
    if isEscape escaped then
      (readText rest).map fun (spelling, rest) => (0x5c :: escaped :: spelling, rest)
    else none
  | byte :: rest =>
    if byte < 0x20 || byte == 0x5c then none
    else (readText rest).map fun (spelling, rest) => (byte :: spelling, rest)

def readDigits (input : Bytes) : Option (Bytes × Bytes) :=
  match input.takeWhile isDigit with
  | [] => none
  | digits => some (digits, input.dropWhile isDigit)

/-- The whole part of a number: a zero, or digits that do not start with one. -/
def readWhole : Bytes → Option (Bytes × Bytes)
  | 0x30 :: rest => some ([0x30], rest)
  | input => readDigits input

/-- The point and the digits after it, if there is a point. -/
def readFraction : Bytes → Option (Bytes × Bytes)
  | 0x2e :: rest => (readDigits rest).map fun (digits, rest) => (0x2e :: digits, rest)
  | input => some ([], input)

def readExponent : Bytes → Option (Bytes × Bytes)
  | mark :: rest =>
    if mark = 0x65 ∨ mark = 0x45 then
      match rest with
      | sign :: later =>
        if sign = 0x2b ∨ sign = 0x2d then
          (readDigits later).map fun (digits, rest) => (mark :: sign :: digits, rest)
        else (readDigits rest).map fun (digits, rest) => (mark :: digits, rest)
      | [] => none
    else some ([], mark :: rest)
  | [] => some ([], [])

/-- The spelling of a number without its sign, and what follows it. -/
def readUnsigned (input : Bytes) : Option (Bytes × Bytes) := do
  let (whole, rest) ← readWhole input
  let (fraction, rest) ← readFraction rest
  let (exponent, rest) ← readExponent rest
  some (whole ++ fraction ++ exponent, rest)

def readNumber : Bytes → Option (Bytes × Bytes)
  | 0x2d :: rest => (readUnsigned rest).map fun (spelling, rest) => (0x2d :: spelling, rest)
  | input => readUnsigned input

mutual

/-- A value that starts at the first byte, and what follows it. -/
def readValue : (fuel : Nat) → Bytes → Option (Json × Bytes)
  | 0, _ => none
  | fuel + 1, input =>
    match input with
    | 0x6e :: 0x75 :: 0x6c :: 0x6c :: rest => some (.null, rest)
    | 0x74 :: 0x72 :: 0x75 :: 0x65 :: rest => some (.bool true, rest)
    | 0x66 :: 0x61 :: 0x6c :: 0x73 :: 0x65 :: rest => some (.bool false, rest)
    | 0x22 :: rest => (readText rest).map fun (spelling, rest) => (.text spelling, rest)
    | 0x5b :: rest =>
      match skipSpace rest with
      | 0x5d :: rest => some (.array [], rest)
      | rest => (readItems fuel rest).map fun (items, rest) => (.array items, rest)
    | 0x7b :: rest =>
      match skipSpace rest with
      | 0x7d :: rest => some (.object [], rest)
      | rest => (readMembers fuel rest).map fun (members, rest) => (.object members, rest)
    | _ => (readNumber input).map fun (spelling, rest) => (.number spelling, rest)

/-- The items of an array from one that starts at the first byte on, and what follows the array. -/
def readItems : (fuel : Nat) → Bytes → Option (List Json × Bytes)
  | 0, _ => none
  | fuel + 1, input =>
    match readValue fuel input with
    | none => none
    | some (item, rest) =>
      match skipSpace rest with
      | 0x5d :: rest => some ([item], rest)
      | 0x2c :: rest =>
        (readItems fuel (skipSpace rest)).map fun (items, rest) => (item :: items, rest)
      | _ => none

/-- The members of an object from one that starts at the first byte on, and what follows the
object. -/
def readMembers : (fuel : Nat) → Bytes → Option (List (Bytes × Json) × Bytes)
  | 0, _ => none
  | fuel + 1, input =>
    match input with
    | 0x22 :: rest =>
      match readText rest with
      | none => none
      | some (key, rest) =>
        match skipSpace rest with
        | 0x3a :: rest =>
          match readValue fuel (skipSpace rest) with
          | none => none
          | some (value, rest) =>
            match skipSpace rest with
            | 0x7d :: rest => some ([(key, value)], rest)
            | 0x2c :: rest =>
              (readMembers fuel (skipSpace rest)).map fun (members, rest) =>
                ((key, value) :: members, rest)
            | _ => none
        | _ => none
    | _ => none

end

/-- The document that a byte string spells, with white space around it and nothing else. -/
def read? (input : Bytes) : Option Json :=
  match readValue (2 * input.length + 1) (skipSpace input) with
  | some (value, rest) => if (skipSpace rest).isEmpty then some value else none
  | none => none

end Coffer.Json
