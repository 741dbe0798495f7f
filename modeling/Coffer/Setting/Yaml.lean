import Coffer.Setting
/-!
# Settings in YAML

One document of nested blocks: mappings, sequences, plain and quoted scalars, and mappings and
sequences in brackets on one line. Plain scalars may go on in deeper lines. A key may be given once
only.
-/

namespace Coffer.Yaml

open Setting (isDigit digitsValue unsigned signed whole? decimal? lookup put)

/-- A line without its indentation, comment and trailing blanks. -/
structure Line where
  indent : Nat
  content : List Char

def isSpace (c : Char) : Bool := c = ' ' || c = '\t' || c = '\r'

def trimEnd (text : List Char) : List Char := (text.reverse.dropWhile isSpace).reverse

def trimStart (text : List Char) : List Char := text.dropWhile isSpace

/-- A text without its comment, which starts at the beginning or after a blank, and not inside
quotes. The quote that is open and the character before are given. -/
def withoutComment (quote : Option Char) (before : Char) : List Char → List Char
  | [] => []
  | c :: rest =>
    match quote with
    | some open_ =>
      if open_ = '"' && c = '\\' then
        match rest with
        | d :: later => c :: d :: withoutComment quote d later
        | [] => [c]
      else c :: withoutComment (if c = open_ then none else quote) c rest
    | none =>
      if c = '#' && isSpace before then []
      else if (c = '"' || c = '\'') && (isSpace before || before ∈ ['[', '{', ',', ':']) then
        c :: withoutComment (some c) c rest
      else c :: withoutComment none c rest

/-- The lines of a text that say something. Indentation by tabs is refused. -/
def lines? (text : String) : Option (List Line) :=
  let raw := (text.toList.splitOn '\n').map fun line => trimEnd (withoutComment none ' ' line)
  let lines := raw.filter fun line => !line.isEmpty
  let indented := lines.map fun line =>
    let spaces := line.takeWhile (· = ' ')
    (⟨spaces.length, line.drop spaces.length⟩ : Line)
  if indented.any fun line => line.content.head? = some '\t' then none else some indented

def ofPlain (spelling : List Char) : Setting :=
  let based := fun (base : Nat) (digits : List Char) =>
    if !digits.isEmpty && digits.all (fun c => c.isAlphanum && digitsValue 36 [c] < base) then
      some (Setting.whole (digitsValue base digits)) else none
  let other := match spelling with
    | '0' :: 'x' :: digits => based 16 digits
    | '0' :: 'o' :: digits => based 8 digits
    | _ => none
  match other with
  | some value => value
  | none =>
    if spelling.isEmpty || spelling = ['~'] || spelling = ['n', 'u', 'l', 'l'] then .absent
    else if spelling = ['t', 'r', 'u', 'e'] then .flag true
    else if spelling = ['f', 'a', 'l', 's', 'e'] then .flag false
    else match whole? spelling with
      | some value => .whole value
      | none => (decimal? spelling).getD (.text (String.ofList spelling))

def codePoint? (width : Nat) (text : List Char) : Option (Char × List Char) :=
  let digits := text.take width
  let code := digitsValue 16 digits
  let areDigits := digits.all fun c => isDigit c || ('a' ≤ c.toLower && c.toLower ≤ 'f')
  if digits.length = width && areDigits && Nat.isValidChar code then
    some (Char.ofNat code, text.drop width)
  else none

def escaped? : List Char → Option (Char × List Char)
  | '0' :: rest => some ('\x00', rest)
  | 'a' :: rest => some ('\x07', rest)
  | 'b' :: rest => some ('\x08', rest)
  | 't' :: rest => some ('\t', rest)
  | 'n' :: rest => some ('\n', rest)
  | 'v' :: rest => some ('\x0b', rest)
  | 'f' :: rest => some ('\x0c', rest)
  | 'r' :: rest => some ('\r', rest)
  | 'e' :: rest => some ('\x1b', rest)
  | ' ' :: rest => some (' ', rest)
  | '"' :: rest => some ('"', rest)
  | '/' :: rest => some ('/', rest)
  | '\\' :: rest => some ('\\', rest)
  | 'x' :: rest => codePoint? 2 rest
  | 'u' :: rest => codePoint? 4 rest
  | 'U' :: rest => codePoint? 8 rest
  | _ => none

def doubleQuoted? : (fuel : Nat) → List Char → Option (List Char × List Char)
  | 0, _ => none
  | _, '"' :: rest => some ([], rest)
  | fuel + 1, '\\' :: rest => do
    let (c, rest) ← escaped? rest
    let (inside, rest) ← doubleQuoted? fuel rest
    some (c :: inside, rest)
  | fuel + 1, c :: rest => (doubleQuoted? fuel rest).map fun (inside, rest) => (c :: inside, rest)
  | _, [] => none

/-- The rest of a scalar in single quotes, in which a quote is written twice. -/
def singleQuoted? : List Char → Option (List Char × List Char)
  | [] => none
  | '\'' :: '\'' :: rest => (singleQuoted? rest).map fun (inside, rest) => ('\'' :: inside, rest)
  | '\'' :: rest => some ([], rest)
  | c :: rest => (singleQuoted? rest).map fun (inside, rest) => (c :: inside, rest)

def quoted? (text : List Char) : Option (String × List Char) :=
  match text with
  | '"' :: rest => (doubleQuoted? text.length rest).map fun (inside, rest) =>
    (String.ofList inside, rest)
  | '\'' :: rest => (singleQuoted? rest).map fun (inside, rest) => (String.ofList inside, rest)
  | _ => none

def endsPlain : List Char → Bool
  | [] => true
  | ':' :: c :: _ => isSpace c || c ∈ [',', ']', '}']
  | [':'] => true
  | c :: _ => c ∈ [',', '[', ']', '{', '}']

def plainInside : List Char → List Char × List Char
  | [] => ([], [])
  | c :: rest =>
    if endsPlain (c :: rest) then ([], c :: rest)
    else
      let (inside, rest) := plainInside rest
      (c :: inside, rest)

def keyInside? (text : List Char) : Option (String × List Char) :=
  match quoted? text with
  | some found => some found
  | none =>
    match plainInside text with
    | ([], _) => none
    | (inside, rest) => some (String.ofList (trimEnd inside), rest)

def add? (key : String) (value : Setting) (entries : List (String × Setting)) :
    Option (List (String × Setting)) :=
  if (lookup key entries).isSome then none else some (entries ++ [(key, value)])

mutual

def inside? : (fuel : Nat) → List Char → Option (Setting × List Char)
  | 0, _ => none
  | fuel + 1, spelling =>
    match spelling with
    | '[' :: rest => (items? fuel (trimStart rest)).map fun (items, rest) => (.list items, rest)
    | '{' :: rest => (members? fuel [] (trimStart rest)).map fun (entries, rest) =>
      (.table entries, rest)
    | _ =>
      match quoted? spelling with
      | some (value, rest) => some (.text value, rest)
      | none =>
        let (value, rest) := plainInside spelling
        some (ofPlain (trimEnd value), rest)

def items? : (fuel : Nat) → List Char → Option (List Setting × List Char)
  | 0, _ => none
  | _, ']' :: rest => some ([], rest)
  | fuel + 1, spelling => do
    let (item, rest) ← inside? fuel spelling
    match trimStart rest with
    | ',' :: rest =>
      let (later, rest) ← items? fuel (trimStart rest)
      some (item :: later, rest)
    | ']' :: rest => some ([item], rest)
    | _ => none

def members? : (fuel : Nat) → List (String × Setting) → List Char →
    Option (List (String × Setting) × List Char)
  | 0, _, _ => none
  | _, entries, '}' :: rest => some (entries, rest)
  | fuel + 1, entries, spelling => do
    let (key, rest) ← keyInside? spelling
    let (value, rest) ← match trimStart rest with
      | ':' :: rest => inside? fuel (trimStart rest)
      | rest => some (.absent, rest)
    let entries ← add? key value entries
    match trimStart rest with
    | ',' :: rest => members? fuel entries (trimStart rest)
    | '}' :: rest => some (entries, rest)
    | _ => none

end

def isIndicator (c : Char) : Bool :=
  c ∈ [',', '[', ']', '{', '}', '#', '&', '*', '!', '|', '>', '\'', '"', '%', '@', '\x60']

def colonAt? (content : List Char) : Option Nat :=
  match content with
  | [] => none
  | [c] => if c = ':' then some 0 else none
  | c :: d :: rest =>
    if c = ':' && isSpace d then some 0 else (colonAt? (d :: rest)).map (· + 1)

/-- The key that a line starts with, and what follows its colon. -/
def key? (content : List Char) : Option (String × List Char) :=
  match quoted? content with
  | some (key, rest) =>
    match trimStart rest with
    | ':' :: rest => some (key, trimStart rest)
    | _ => none
  | none =>
    match colonAt? content with
    | none => none
    | some place =>
      let spelling := trimEnd (content.take place)
      if spelling.isEmpty || (spelling.head?.map isIndicator).getD true then none
      else some (String.ofList spelling, trimStart (content.drop (place + 1)))

def item? : List Char → Option (List Char)
  | ['-'] => some []
  | '-' :: c :: rest => if isSpace c then some (trimStart rest) else none
  | _ => none

/-- A value on one line, with deeper lines that go on with it. -/
def scalar? (content : List Char) (deeper : List Line) : Option Setting :=
  let whole := deeper.foldl (fun content line => content ++ ' ' :: line.content) content
  match whole with
  | [] => some .absent
  | c :: rest =>
    if c = '[' || c = '{' then
      match inside? (2 * whole.length + 2) whole with
      | some (value, rest) => if (trimStart rest).isEmpty then some value else none
      | none => none
    else if c = '"' || c = '\'' then
      match quoted? whole with
      | some (value, rest) => if (trimStart rest).isEmpty then some (.text value) else none
      | none => none
    else if isIndicator c || (colonAt? whole).isSome ||
        ((c = '-' || c = '?') && (rest.head?.map isSpace).getD true) then none
    else some (ofPlain whole)

mutual

/-- The block that starts with a line, which gives its indentation. -/
def block? : (fuel : Nat) → Line → List Line → Option (Setting × List Line)
  | 0, _, _ => none
  | fuel + 1, line, later =>
    if (item? line.content).isSome then
      (sequence? fuel line.indent (line :: later)).map fun (items, rest) => (.list items, rest)
    else if (key? line.content).isSome then
      (mapping? fuel line.indent [] (line :: later)).map fun (entries, rest) =>
        (.table entries, rest)
    else
      let deeper := later.takeWhile fun other => line.indent ≤ other.indent
      (scalar? line.content deeper).map fun value => (value, later.drop deeper.length)

/-- What follows a key or the mark of an entry: something on the same line, or a deeper block. -/
def content? : (fuel : Nat) → (indent : Nat) → (inSequence : Bool) → List Char → List Line →
    Option (Setting × List Line)
  | 0, _, _, _, _ => none
  | fuel + 1, indent, inSequence, content, later =>
    if content.isEmpty then
      match later with
      | next :: rest =>
        if indent < next.indent ||
          (!inSequence && indent = next.indent && (item? next.content).isSome) then
          block? fuel next rest
        else some (.absent, later)
      | [] => some (.absent, [])
    else
      let deeper := later.takeWhile fun other => indent < other.indent
      (scalar? content deeper).map fun value => (value, later.drop deeper.length)

def mapping? : (fuel : Nat) → (indent : Nat) → List (String × Setting) → List Line →
    Option (List (String × Setting) × List Line)
  | 0, _, _, _ => none
  | _, _, entries, [] => some (entries, [])
  | fuel + 1, indent, entries, line :: later =>
    if line.indent < indent then some (entries, line :: later)
    else if indent < line.indent then none
    else do
      let (key, content) ← key? line.content
      let (value, rest) ← content? fuel indent false content later
      mapping? fuel indent (← add? key value entries) rest

def sequence? : (fuel : Nat) → (indent : Nat) → List Line → Option (List Setting × List Line)
  | 0, _, _ => none
  | _, _, [] => some ([], [])
  | fuel + 1, indent, line :: later =>
    if indent < line.indent then none
    else if line.indent < indent then some ([], line :: later)
    else
      match item? line.content with
      | none => some ([], line :: later)
      | some content => do
        let inner : Line := ⟨line.indent + (line.content.length - content.length), content⟩
        let nested := (key? content).isSome || (item? content).isSome
        let (value, rest) ←
          if nested then block? fuel inner later else content? fuel indent true content later
        let (items, rest) ← sequence? fuel indent rest
        some (value :: items, rest)

end

/-- The lines of the one document of a text; its start and end may be marked. -/
def document? (lines : List Line) : Option (List Line) :=
  let mark := fun (line : Line) => line.indent = 0 && line.content = ['-', '-', '-']
  let lines := match lines with
    | first :: later => if mark first then later else lines
    | [] => []
  let isEnd := fun (line : Line) => line.indent = 0 && line.content = ['.', '.', '.']
  let body := lines.takeWhile fun line => !isEnd line
  if body.any mark || body.length + 1 < lines.length then none else some body

/-- The value that a YAML text writes; a text that says nothing is an empty table. -/
def read? (text : String) : Option Setting := do
  match ← document? (← lines? text) with
  | [] => some (.table [])
  | first :: later =>
    match ← block? (3 * later.length + 4) first later with
    | (value, []) => some value
    | _ => none

end Coffer.Yaml
