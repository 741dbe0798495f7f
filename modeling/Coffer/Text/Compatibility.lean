import Coffer.Text.Compatibility.Table
/-!
# Compatibility decomposition

Replaces every character by its full compatibility decomposition and puts marks on one character
into the order of their combining classes (normalisation form KD).
-/

namespace Coffer.Text.Compatibility

def hangul (code : Nat) : List Nat :=
  let index := code - 0xac00
  let vowel := [0x1100 + index / 588, 0x1161 + index % 588 / 28]
  if index % 28 = 0 then vowel else vowel ++ [0x11a7 + index % 28]

def decompositionOf (code : Nat) : List Nat :=
  if 0xac00 ≤ code && code ≤ 0xd7a3 then hangul code
  else
    let table := entries
    let count := HexTable.countUpTo (fun i => (table[i]?.map Entry.first).getD 0) code 0 table.size
    match table[count - 1]? with
    | none => [code]
    | some entry =>
      if entry.first ≤ code && code < entry.first + entry.count * entry.step &&
          (code - entry.first) % entry.step == 0 then
        entry.target.map (· + (code - entry.first))
      else [code]

def decomposeChar (c : Char) : List Char :=
  if c.toNat < 0x80 then [c] else (decompositionOf c.toNat).map Char.ofNat

/-- The canonical combining class; 0 for a character that starts a new cluster. -/
def combiningClass (c : Char) : Nat :=
  if c.toNat < 0x300 then 0
  else
    let table := classStarts
    let count := HexTable.countUpTo (fun i => (table[i]?.map Prod.fst).getD 0) c.toNat 0 table.size
    ((table[count - 1]?).map Prod.snd).getD 0

/-- Puts a character in front of a text, past the marks that come before it by class. -/
def insertMark (c : Char) : List Char → List Char
  | [] => [c]
  | d :: rest =>
    if combiningClass d ≠ 0 ∧ combiningClass d < combiningClass c then d :: insertMark c rest
    else c :: d :: rest

/-- Sorts every run of marks by class; marks of one class keep their order. -/
def orderMarks (text : List Char) : List Char := text.foldr insertMark []

def decompose (text : List Char) : List Char := orderMarks (text.flatMap decomposeChar)

end Coffer.Text.Compatibility
