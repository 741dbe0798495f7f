import Coffer.Text.LowerCase
/-!
# Settings

A configuration as a tree of values, in which later sources are laid over earlier ones, and what its
values stand for: a number may also be written as a text or a truth value, and a text as a number.
-/

namespace Coffer

inductive Setting where
  | absent
  | flag (value : Bool)
  | whole (value : Int)
  /-- The value is to be multiplied by the power of ten with the exponent. -/
  | decimal (value exponent : Int)
  | text (value : String)
  | list (items : List Setting)
  | table (entries : List (String × Setting))

namespace Setting

def lookup (key : String) (entries : List (String × Setting)) : Option Setting :=
  (entries.find? fun entry => entry.1 = key).map Prod.snd

/-- The entries with a value in place of the one of its key, or behind them. -/
def put (key : String) (value : Setting) : List (String × Setting) → List (String × Setting)
  | [] => [(key, value)]
  | (other, old) :: later =>
    if other = key then (key, value) :: later else (other, old) :: put key value later

/-- The entries of a table; a value of another kind has none. -/
def entries : Setting → List (String × Setting)
  | .table entries => entries
  | _ => []

mutual

/-- A value with another one laid over it: tables are merged, anything else is replaced. -/
def overlay (base : Setting) : Setting → Setting
  | .table entries => .table (overlayEntries base.entries entries)
  | other => other

/-- Entries with others laid over them, one after the other. -/
def overlayEntries (base : List (String × Setting)) : List (String × Setting) →
    List (String × Setting)
  | [] => base
  | (key, value) :: later =>
    overlayEntries (put key (overlay ((lookup key base).getD .absent) value) base) later

end

def nested (path : List String) (value : Setting) : Setting :=
  path.foldr (fun key inner => .table [(key, inner)]) value

def isDigit (c : Char) : Bool := '0' ≤ c && c ≤ '9'

def digitsValue (base : Nat) (digits : List Char) : Nat :=
  digits.foldl (fun value c =>
    base * value + if isDigit c then c.toNat - 48 else c.toLower.toNat - 87) 0

def unsigned : List Char → Bool × List Char
  | '-' :: rest => (true, rest)
  | '+' :: rest => (false, rest)
  | rest => (false, rest)

def signed (negative : Bool) (value : Nat) : Int := if negative then -(value : Int) else value

/-- The whole number in the range of 64 bits that decimal digits write, with or without a sign. -/
def whole? (spelling : List Char) : Option Int :=
  let (negative, digits) := unsigned spelling
  let value := signed negative (digitsValue 10 digits)
  if !digits.isEmpty && digits.all isDigit && -0x8000000000000000 ≤ value &&
    value < 0x8000000000000000 then some value else none

def exponent? : List Char → Option Int
  | [] => some 0
  | mark :: rest => if mark = 'e' || mark = 'E' then whole? rest else none

/-- The number that decimal digits with a point, an exponent or both write. -/
def decimal? (spelling : List Char) : Option Setting := do
  let (negative, rest) := unsigned spelling
  let before := rest.takeWhile isDigit
  let rest := rest.dropWhile isDigit
  let (after, rest) := match rest with
    | '.' :: later => (later.takeWhile isDigit, later.dropWhile isDigit)
    | _ => ([], rest)
  let exponent ← exponent? rest
  if (before ++ after).isEmpty || 400 < exponent.natAbs then none
  else some (.decimal (signed negative (digitsValue 10 (before ++ after)))
    (exponent - after.length))

/-- The whole number nearest to a value times a power of ten, a half going up; nothing below
zero. -/
def rounded (value exponent : Int) : Nat :=
  if 0 ≤ exponent then value.toNat * Nat.pow 10 exponent.toNat
  else
    let unit := Nat.pow 10 (-exponent).toNat
    (2 * value.toNat + unit) / (2 * unit)

/-- The digits of a value times a power of ten, without an exponent. -/
def decimalText (value exponent : Int) : String :=
  let digits := Nat.toDigits 10 value.natAbs
  let sign := if value < 0 then ['-'] else []
  if 0 ≤ exponent then String.ofList (sign ++ digits ++ List.replicate exponent.toNat '0')
  else
    let places := (-exponent).toNat
    let padded := List.replicate (places + 1 - digits.length) '0' ++ digits
    let fraction := ((padded.drop (padded.length - places)).reverse.dropWhile (· = '0')).reverse
    let point := if fraction.isEmpty then [] else '.' :: fraction
    String.ofList (sign ++ padded.take (padded.length - places) ++ point)

/-- The number that a text stands for: one of the words for yes and no, or digits. -/
def spelledNumber? (spelling : String) : Option Nat :=
  let word := String.ofList (Text.lower spelling.toList)
  if ["true", "on", "yes"].contains word then some 1
  else if ["false", "off", "no"].contains word then some 0
  else
    let digits := match spelling.toList with
      | '+' :: rest => rest
      | rest => rest
    if !digits.isEmpty && digits.all isDigit then some (digitsValue 10 digits) else none

def number? : Setting → Option Nat
  | .flag value => some value.toNat
  | .whole value => if 0 ≤ value then some value.toNat else none
  | .decimal value exponent => some (rounded value exponent)
  | .text spelling => spelledNumber? spelling
  | _ => none

def word32? (setting : Setting) : Option UInt32 := do
  let value ← setting.number?
  if value < 0x100000000 then some (UInt32.ofNat value) else none

def text? : Setting → Option String
  | .text value => some value
  | .flag value => some (if value then "true" else "false")
  | .whole value => some (toString value)
  | .decimal value exponent => some (decimalText value exponent)
  | _ => none

end Setting

end Coffer
