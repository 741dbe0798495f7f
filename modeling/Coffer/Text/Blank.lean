/-!
# White space and words

White space is the Unicode property `White_Space`, twenty-five characters. The words of a text are
its maximal runs of other characters, so that splitting forgets how much white space stood between
them.
-/

namespace Coffer.Text

def isBlank (c : Char) : Bool :=
  let code := c.toNat
  (0x09 ≤ code && code ≤ 0x0d) || code == 0x20 || code == 0x85 || code == 0xa0 || code == 0x1680 ||
  (0x2000 ≤ code && code ≤ 0x200a) || code == 0x2028 || code == 0x2029 || code == 0x202f ||
  code == 0x205f || code == 0x3000

/-- A text of which nothing is left once white space is trimmed. -/
def allBlank (text : String) : Bool := text.toList.all isBlank

/-- Closes a word that was collected backwards; an empty one is no word. -/
def closeWord (reversed : List Char) (later : List (List Char)) : List (List Char) :=
  if reversed.isEmpty then later else reversed.reverse :: later

/-- The words of a text whose first characters, collected backwards, are `reversed`. -/
def wordsAfter (reversed : List Char) : List Char → List (List Char)
  | [] => closeWord reversed []
  | c :: rest =>
    if isBlank c then closeWord reversed (wordsAfter [] rest) else wordsAfter (c :: reversed) rest

def words (text : List Char) : List (List Char) := wordsAfter [] text

def spaced (parts : List (List Char)) : List Char := [' '].intercalate parts

end Coffer.Text
