/-!
# Tables written in hexadecimal

Tables about characters are written as text: entries with blanks or line ends between them, each
made of numbers in lower-case hexadecimal. A sorted table is searched by halving.
-/

namespace Coffer.Text.HexTable

/-- The value of a hexadecimal digit; other characters count as nothing. -/
def digit (c : Char) : Nat :=
  if '0' ≤ c && c ≤ '9' then c.toNat - 48 else if 'a' ≤ c && c ≤ 'f' then c.toNat - 87 else 0

def number (digits : List Char) : Nat := digits.foldl (fun value c => 16 * value + digit c) 0

def pieces (separator : Char) (text : List Char) : List (List Char) :=
  text.foldr (fun c parts =>
    if c = separator then [] :: parts
    else match parts with
      | [] => [[c]]
      | part :: others => (c :: part) :: others) [[]]

def entries (text : String) : List (List Char) :=
  (pieces ' ' (text.toList.map fun c => if c = '\n' then ' ' else c)).filter fun entry =>
    !entry.isEmpty

/-- The numbers of a text in which `separator` stands between two of them. -/
def numbers (separator : Char) (text : List Char) : List Nat := (pieces separator text).map number

/-- How many of the ascending keys of a table are not above a code: `low` are known not to be, and
the `width` keys after them are undecided. -/
def countUpTo (key : Nat → Nat) (code low width : Nat) : Nat :=
  if width = 0 then low
  else
    let half := width / 2
    if key (low + half) ≤ code then countUpTo key code (low + half + 1) (width - half - 1)
    else countUpTo key code low half
termination_by width

end Coffer.Text.HexTable
