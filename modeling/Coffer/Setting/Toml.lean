import Coffer.Setting
/-!
# Settings in TOML

Keys may be bare, quoted and dotted; values are strings of all four kinds, numbers, truth values,
arrays and inline tables; dates and times are taken as texts. A key may be given once only, and a
table header may be given once only, unless the table so far only exists because of a longer header.
-/

namespace Coffer.Toml

open Setting (isDigit digitsValue unsigned whole? decimal? lookup put)

def skipBlanks (text : List Char) : List Char := text.dropWhile fun c => c = ' ' || c = '\t'

def skipComment : List Char → List Char
  | '#' :: rest => rest.dropWhile (· ≠ '\n')
  | text => text

/-- Drops the end of a line; nothing but blanks and a comment may stand before it. -/
def endLine? (text : List Char) : Option (List Char) :=
  match skipComment (skipBlanks text) with
  | [] => some []
  | '\n' :: rest => some rest
  | '\r' :: '\n' :: rest => some rest
  | _ => none

/-- Drops blanks, comments and line ends, at most `fuel` of them. -/
def skipLines : (fuel : Nat) → List Char → List Char
  | 0, text => text
  | fuel + 1, text =>
    match skipComment (skipBlanks text) with
    | '\n' :: rest => skipLines fuel rest
    | '\r' :: '\n' :: rest => skipLines fuel rest
    | rest => rest

def isBare (c : Char) : Bool := c.isAlphanum || c = '_' || c = '-'

def character? (code : Nat) : Option Char :=
  if Nat.isValidChar code then some (Char.ofNat code) else none

def isHexDigit (c : Char) : Bool := isDigit c || ('a' ≤ c && c ≤ 'f') || ('A' ≤ c && c ≤ 'F')

def codePoint? (width : Nat) (text : List Char) : Option (Char × List Char) :=
  let digits := text.take width
  if digits.length = width && digits.all isHexDigit then
    (character? (digitsValue 16 digits)).map fun c => (c, text.drop width)
  else none

def escaped? : List Char → Option (Char × List Char)
  | 'b' :: rest => some ('\x08', rest)
  | 't' :: rest => some ('\t', rest)
  | 'n' :: rest => some ('\n', rest)
  | 'f' :: rest => some ('\x0c', rest)
  | 'r' :: rest => some ('\r', rest)
  | '"' :: rest => some ('"', rest)
  | '\\' :: rest => some ('\\', rest)
  | 'u' :: rest => codePoint? 4 rest
  | 'U' :: rest => codePoint? 8 rest
  | _ => none

def basic? : (fuel : Nat) → List Char → Option (List Char × List Char)
  | 0, _ => none
  | _, '"' :: rest => some ([], rest)
  | fuel + 1, '\\' :: rest => do
    let (c, rest) ← escaped? rest
    let (text, rest) ← basic? fuel rest
    some (c :: text, rest)
  | fuel + 1, c :: rest =>
    if c.toNat < 0x20 && c ≠ '\t' || c = '\x7f' then none
    else (basic? fuel rest).map fun (text, rest) => (c :: text, rest)
  | _, [] => none

def literal? (text : List Char) : Option (List Char × List Char) :=
  let inside := text.takeWhile fun c => c ≠ '\'' && c ≠ '\n'
  match text.drop inside.length with
  | '\'' :: rest => some (inside, rest)
  | _ => none

/-- The rest of a string in three quotes of a kind; those in double quotes have escapes, of which
one joins lines. -/
def multiline? (quote : Char) : (fuel : Nat) → List Char → Option (List Char × List Char)
  | 0, _ => none
  | fuel + 1, text =>
    match text with
    | [] => none
    | '\\' :: rest =>
      if quote = '\'' then (multiline? quote fuel rest).map fun (text, rest) => ('\\' :: text, rest)
      else match skipBlanks rest with
        | '\n' :: later =>
          multiline? quote fuel (later.dropWhile fun c => c = ' ' || c = '\t' ||
            c = '\n' || c = '\r')
        | _ => do
          let (c, rest) ← escaped? rest
          let (text, rest) ← multiline? quote fuel rest
          some (c :: text, rest)
    | c :: rest =>
      let quotes := text.takeWhile (· = quote)
      if c = quote && 3 ≤ quotes.length then
        if quotes.length ≤ 5 then some (quotes.drop 3, text.drop quotes.length) else none
      else (multiline? quote fuel rest).map fun (text, rest) => (c :: text, rest)

/-- The line end that may follow an opening triple quote does not belong to the string. -/
def afterOpening : List Char → List Char
  | '\n' :: rest => rest
  | '\r' :: '\n' :: rest => rest
  | text => text

def string? (text : List Char) : Option (String × List Char) :=
  let found := match text with
    | '"' :: '"' :: '"' :: rest => multiline? '"' (text.length + 1) (afterOpening rest)
    | '\'' :: '\'' :: '\'' :: rest => multiline? '\'' (text.length + 1) (afterOpening rest)
    | '"' :: rest => basic? (text.length + 1) rest
    | '\'' :: rest => literal? rest
    | _ => none
  found.map fun (inside, rest) => (String.ofList inside, rest)

def keyPart? (text : List Char) : Option (String × List Char) :=
  match text with
  | '"' :: rest => (basic? (text.length + 1) rest).map fun (inside, rest) =>
    (String.ofList inside, rest)
  | '\'' :: rest => (literal? rest).map fun (inside, rest) => (String.ofList inside, rest)
  | _ =>
    match text.takeWhile isBare with
    | [] => none
    | bare => some (String.ofList bare, text.drop bare.length)

def key? : (fuel : Nat) → List Char → Option (List String × List Char)
  | 0, _ => none
  | fuel + 1, text => do
    let (part, rest) ← keyPart? text
    match skipBlanks rest with
    | '.' :: later =>
      let (parts, rest) ← key? fuel (skipBlanks later)
      some (part :: parts, rest)
    | _ => some ([part], rest)

/-- Digits without the underscores between them; an underscore anywhere else is refused. -/
def withoutUnderscores? : List Char → Option (List Char)
  | [] => some []
  | '_' :: _ => none
  | c :: '_' :: d :: rest =>
    if c.isAlphanum && d.isAlphanum then (withoutUnderscores? (d :: rest)).map (c :: ·) else none
  | c :: rest => (withoutUnderscores? rest).map (c :: ·)

def based? (base : Nat) (digits : List Char) : Option Setting :=
  let isBaseDigit := fun c => isHexDigit c && digitsValue 16 [c] < base
  if !digits.isEmpty && digits.all isBaseDigit && digitsValue base digits < 0x8000000000000000 then
    some (.whole (digitsValue base digits))
  else none

/-- Whether a number has a zero in front that it does not need. -/
def hasLeadingZero (spelling : List Char) : Bool :=
  match (unsigned spelling).2 with
  | '0' :: c :: _ => isDigit c
  | _ => false

def pointsAreInside : List Char → Bool
  | [] => true
  | ['.'] => false
  | '.' :: c :: rest => isDigit c && pointsAreInside (c :: rest)
  | c :: '.' :: rest => isDigit c && pointsAreInside ('.' :: rest)
  | _ :: rest => pointsAreInside rest

def isMoment (token : List Char) : Bool :=
  let shape := (token.take 10).map fun c => if isDigit c then '0' else c
  shape = ['0', '0', '0', '0', '-', '0', '0', '-', '0', '0'] ||
    shape.take 8 = ['0', '0', ':', '0', '0', ':', '0', '0']

def ofToken? (token : List Char) : Option Setting :=
  if token = ['t', 'r', 'u', 'e'] then some (.flag true)
  else if token = ['f', 'a', 'l', 's', 'e'] then some (.flag false)
  else if isMoment token then some (.text (String.ofList token))
  else do
    let spelling ← withoutUnderscores? token
    match spelling with
    | '0' :: 'x' :: digits => based? 16 digits
    | '0' :: 'o' :: digits => based? 8 digits
    | '0' :: 'b' :: digits => based? 2 digits
    | _ =>
      if hasLeadingZero spelling || !pointsAreInside spelling then none
      else match whole? spelling with
        | some value => some (.whole value)
        | none => if ((unsigned spelling).2.takeWhile isDigit).isEmpty ||
            (unsigned spelling).2.all isDigit then none else decimal? spelling

def endsToken (c : Char) : Bool :=
  c = ' ' || c = '\t' || c = '\n' || c = '\r' || c = ',' || c = ']' || c = '}' || c = '#'

/-- The entries with a value put in at a path; what is there already has to be a table on the way
and nothing at its end. -/
def assign? : (path : List String) → Setting → List (String × Setting) →
    Option (List (String × Setting))
  | [], _, _ => none
  | [key], value, entries =>
    if (lookup key entries).isSome then none else some (entries ++ [(key, value)])
  | key :: path, value, entries =>
    match lookup key entries with
    | none => (assign? path value []).map fun inner => entries ++ [(key, .table inner)]
    | some (.table inner) => (assign? path value inner).map fun inner =>
      put key (.table inner) entries
    | some _ => none

/-- The entries with a change applied to those of the table at a path. A list on the way stands for
the last table in it, and what is missing is made. -/
def within? (change : List (String × Setting) → Option (List (String × Setting))) :
    (path : List String) → List (String × Setting) → Option (List (String × Setting))
  | [], entries => change entries
  | key :: path, entries =>
    match lookup key entries with
    | none => (within? change path []).map fun inner => entries ++ [(key, .table inner)]
    | some (.table inner) => (within? change path inner).map fun inner =>
      put key (.table inner) entries
    | some (.list items) =>
      match items.getLast? with
      | some (.table inner) =>
        (within? change path inner).map fun inner =>
          put key (.list (items.dropLast ++ [.table inner])) entries
      | _ => none
    | some _ => none

def appendTable? (key : String) (entries : List (String × Setting)) :
    Option (List (String × Setting)) :=
  match lookup key entries with
  | none => some (entries ++ [(key, .list [.table []])])
  | some (.list items) => some (put key (.list (items ++ [.table []])) entries)
  | some _ => none

mutual

def value? : (fuel : Nat) → List Char → Option (Setting × List Char)
  | 0, _ => none
  | fuel + 1, text =>
    match text with
    | '"' :: _ => (string? text).map fun (inside, rest) => (.text inside, rest)
    | '\'' :: _ => (string? text).map fun (inside, rest) => (.text inside, rest)
    | '[' :: rest => (items? fuel rest).map fun (items, rest) => (.list items, rest)
    | '{' :: rest =>
      match skipBlanks rest with
      | '}' :: rest => some (.table [], rest)
      | rest => (inline? fuel [] rest).map fun (entries, rest) => (.table entries, rest)
    | _ =>
      let token := text.takeWhile fun c => !endsToken c
      (ofToken? token).map fun setting => (setting, text.drop token.length)

def items? : (fuel : Nat) → List Char → Option (List Setting × List Char)
  | 0, _ => none
  | fuel + 1, text =>
    match skipLines (text.length + 1) text with
    | ']' :: rest => some ([], rest)
    | text => do
      let (item, rest) ← value? fuel text
      match skipLines (rest.length + 1) rest with
      | ',' :: rest =>
        let (later, rest) ← items? fuel rest
        some (item :: later, rest)
      | ']' :: rest => some ([item], rest)
      | _ => none

def inline? : (fuel : Nat) → List (String × Setting) → List Char →
    Option (List (String × Setting) × List Char)
  | 0, _, _ => none
  | fuel + 1, entries, text => do
    let (path, rest) ← key? (text.length + 1) text
    match skipBlanks rest with
    | '=' :: rest =>
      let (value, rest) ← value? fuel (skipBlanks rest)
      let entries ← assign? path value entries
      match skipBlanks rest with
      | ',' :: rest => inline? fuel entries (skipBlanks rest)
      | '}' :: rest => some (entries, rest)
      | _ => none
    | _ => none

end

structure State where
  entries : List (String × Setting)
  path : List String
  given : List (List String)

def State.open? (state : State) (path : List String) : Option State :=
  if path ∈ state.given then none
  else do
    let entries ← within? some path state.entries
    some ⟨entries, path, path :: state.given⟩

def State.append? (state : State) (path : List String) : Option State := do
  let key ← path.getLast?
  let entries ← within? (appendTable? key) path.dropLast state.entries
  let given := state.given.filter fun other => !path.isPrefixOf other
  some ⟨entries, path, given⟩

def State.assign? (state : State) (path : List String) (value : Setting) : Option State := do
  let entries ← within? (Toml.assign? path value) state.path state.entries
  let leading := (List.range path.length).map fun i => state.path ++ path.take (i + 1)
  some { state with entries, given := leading ++ state.given }

def statements? : (fuel : Nat) → State → List Char → Option State
  | 0, _, _ => none
  | fuel + 1, state, text =>
    match skipLines (text.length + 1) text with
    | [] => some state
    | '[' :: '[' :: rest => do
      let (path, rest) ← key? (rest.length + 1) (skipBlanks rest)
      match skipBlanks rest with
      | ']' :: ']' :: rest =>
        let state ← state.append? path
        statements? fuel state (← endLine? rest)
      | _ => none
    | '[' :: rest => do
      let (path, rest) ← key? (rest.length + 1) (skipBlanks rest)
      match skipBlanks rest with
      | ']' :: rest =>
        let state ← state.open? path
        statements? fuel state (← endLine? rest)
      | _ => none
    | text => do
      let (path, rest) ← key? (text.length + 1) text
      match skipBlanks rest with
      | '=' :: rest =>
        let (value, rest) ← value? (rest.length + 1) (skipBlanks rest)
        let state ← state.assign? path value
        statements? fuel state (← endLine? rest)
      | _ => none

def read? (text : String) : Option Setting :=
  (statements? (text.length + 1) ⟨[], [], []⟩ text.toList).map fun state => .table state.entries

end Coffer.Toml
