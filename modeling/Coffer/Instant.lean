import Coffer.Text.Blank
/-!
# Points in time

A point in time is a date of the proleptic Gregorian calendar and a time of day in UTC, with
nanoseconds and room for a leap second. Texts follow RFC 3339, and reading is lenient about the
number of digits, spaces and the spelling of the offset.
-/

namespace Coffer

def isLeapYear (year : Int) : Bool := year % 4 == 0 && (year % 100 != 0 || year % 400 == 0)

def daysInMonth (year : Int) (month : Nat) : Nat :=
  match month with
  | 2 => if isLeapYear year then 29 else 28
  | 4 => 30
  | 6 => 30
  | 9 => 30
  | 11 => 30
  | _ => 31

/-- A date that exists, in the range of years that can be stored. -/
def isDate (year : Int) (month day : Nat) : Bool :=
  -262143 ≤ year && year ≤ 262142 && 1 ≤ month && month ≤ 12 && 1 ≤ day &&
    day ≤ daysInMonth year month

/-- A time of day; the last second of any minute may be followed by a leap second. -/
def isTime (hour minute second nanosecond : Nat) : Bool :=
  hour < 24 && minute < 60 && second ≤ 60 && nanosecond < 1000000000

structure Instant where
  year : Int
  month : Nat
  day : Nat
  hour : Nat
  minute : Nat
  second : Nat
  nanosecond : Nat
  date_exists : isDate year month day = true
  time_exists : isTime hour minute second nanosecond = true
  deriving DecidableEq

namespace Instant

def padded (width value : Nat) : List Char :=
  let digits := Nat.toDigits 10 value
  List.replicate (width - digits.length) '0' ++ digits

/-- A year: four digits, or a sign and at least four digits outside 0 to 9999. -/
def yearText (year : Int) : List Char :=
  if year < 0 then '-' :: padded 4 year.natAbs
  else if 9999 < year then '+' :: padded 4 year.natAbs
  else padded 4 year.natAbs

/-- The fraction of a second in three, six or nine digits, the fewest that are exact. -/
def fractionText (nanosecond : Nat) : List Char :=
  if nanosecond = 0 then []
  else if nanosecond % 1000000 = 0 then '.' :: padded 3 (nanosecond / 1000000)
  else if nanosecond % 1000 = 0 then '.' :: padded 6 (nanosecond / 1000)
  else '.' :: padded 9 nanosecond

def toText (instant : Instant) : String := String.ofList
  (yearText instant.year ++ '-' :: padded 2 instant.month ++ '-' :: padded 2 instant.day ++
    'T' :: padded 2 instant.hour ++ ':' :: padded 2 instant.minute ++
      ':' :: padded 2 instant.second ++
    fractionText instant.nanosecond ++ ['Z'])

def isDigit (c : Char) : Bool := '0' ≤ c && c ≤ '9'

def digitsValue (digits : List Char) : Nat :=
  digits.foldl (fun value c => 10 * value + (c.toNat - 48)) 0

def trimStart (text : List Char) : List Char := text.dropWhile Text.isBlank

def number? (width : Nat) (text : List Char) : Option (Nat × List Char) :=
  match (text.take width).takeWhile isDigit with
  | [] => none
  | digits => some (digitsValue digits, text.drop digits.length)

def part? (text : List Char) : Option (Nat × List Char) := number? 2 (trimStart text)

def mark? (mark : Char) (text : List Char) : Option (List Char) :=
  match trimStart text with
  | c :: rest => if c = mark then some rest else none
  | [] => none

/-- A year: at most four digits, or any number of them after a sign. -/
def year? (text : List Char) : Option (Int × List Char) :=
  match trimStart text with
  | '-' :: rest => (number? rest.length rest).map fun (value, rest) => (-(value : Int), rest)
  | '+' :: rest => (number? rest.length rest).map fun (value, rest) => ((value : Int), rest)
  | text => (number? 4 text).map fun (value, rest) => ((value : Int), rest)

/-- The nanoseconds after a point, if there is one; digits after the ninth are dropped. -/
def fraction? (text : List Char) : Option (Nat × List Char) :=
  match text with
  | '.' :: rest =>
    match (rest.take 9).takeWhile isDigit with
    | [] => none
    | digits =>
      some (digitsValue digits * Nat.pow 10 (9 - digits.length),
      (rest.drop digits.length).dropWhile isDigit)
  | _ => some (0, text)

def twoDigits? : List Char → Option (Nat × List Char)
  | a :: b :: rest => if isDigit a && isDigit b then some (digitsValue [a, b], rest) else none
  | _ => none

/-- The minutes by which local time is ahead, after the sign. -/
def offsetValue? (text : List Char) : Option (Nat × List Char) := do
  let (hours, rest) ← twoDigits? text
  let (minutes, rest) ← twoDigits? (rest.dropWhile fun c => c == ':' || Text.isBlank c)
  if minutes < 60 ∧ hours < 24 then some (60 * hours + minutes, rest) else none

/-- The offset of local time in minutes: a letter for zero, the word for it in any case, or a sign
and four digits, with colons and spaces allowed between hours and minutes. -/
def offset? (text : List Char) : Option (Int × List Char) :=
  if (text.take 3).map Char.toUpper = ['U', 'T', 'C'] then some (0, text.drop 3)
  else match text with
    | 'Z' :: rest => some (0, rest)
    | 'z' :: rest => some (0, rest)
    | '+' :: rest => (offsetValue? rest).map fun (minutes, rest) => ((minutes : Int), rest)
    | '-' :: rest => (offsetValue? rest).map fun (minutes, rest) => (-(minutes : Int), rest)
    | '\u2212' :: rest => (offsetValue? rest).map fun (minutes, rest) => (-(minutes : Int), rest)
    | _ => none

def dayBefore (year : Int) (month day : Nat) : Int × Nat × Nat :=
  if 1 < day then (year, month, day - 1)
  else if 1 < month then (year, month - 1, daysInMonth year (month - 1))
  else (year - 1, 12, 31)

def dayAfter (year : Int) (month day : Nat) : Int × Nat × Nat :=
  if day < daysInMonth year month then (year, month, day + 1)
  else if month < 12 then (year, month + 1, 1)
  else (year + 1, 1, 1)

/-- The point in time with the given parts, if date and time exist. -/
def ofParts? (date : Int × Nat × Nat) (hour minute second nanosecond : Nat) : Option Instant :=
  if dateExists : isDate date.1 date.2.1 date.2.2 = true then
    if timeExists : isTime hour minute second nanosecond = true then
      some ⟨date.1, date.2.1, date.2.2, hour, minute, second, nanosecond, dateExists, timeExists⟩
    else none
  else none

/-- The point in time at which a clock that is `ahead` minutes ahead of UTC shows date and time. -/
def ofLocal? (year : Int) (month day hour minute second nanosecond : Nat) (ahead : Int) :
    Option Instant :=
  if isDate year month day && isTime hour minute second nanosecond then
    let minutes : Int := 60 * hour + minute - ahead
    let date :=
      if minutes < 0 then dayBefore year month day
      else if 1440 ≤ minutes then dayAfter year month day
      else (year, month, day)
    let ofDay := (minutes % 1440).toNat
    ofParts? date (ofDay / 60) (ofDay % 60) second nanosecond
  else none

def ofText? (text : String) : Option Instant := do
  let (year, rest) ← year? text.toList
  let (month, rest) ← part? (← mark? '-' rest)
  let (day, rest) ← part? (← mark? '-' rest)
  let rest ← match rest with
    | 'T' :: rest => some rest
    | 't' :: rest => some rest
    | ' ' :: rest => some rest
    | _ => none
  let (hour, rest) ← part? rest
  let (minute, rest) ← part? (← mark? ':' rest)
  let (second, rest) ← part? (← mark? ':' rest)
  let (nanosecond, rest) ← fraction? rest
  let (ahead, rest) ← offset? (trimStart rest)
  if (trimStart rest).isEmpty then
    ofLocal? year month day hour minute second nanosecond ahead else none

end Instant

end Coffer
