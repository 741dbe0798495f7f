/-!
# Byte strings

A byte string is a list of bytes. A text becomes bytes by its UTF-8 encoding, and a number by its
base-256 digits with the most significant first.
-/

namespace Coffer

abbrev Bytes := List UInt8

namespace Bytes

def ofText (text : String) : Bytes := text.toByteArray.data.toList

/-- The text that a byte string encodes in UTF-8, if it encodes one. -/
def toText? (bytes : Bytes) : Option String := String.fromUTF8? ⟨bytes.toArray⟩

@[simp] theorem toText?_ofText (text : String) : toText? (ofText text) = some text := by
  have valid := text.isValidUTF8
  simp [toText?, ofText, String.fromUTF8?, valid]
  rfl

def asciiText (bytes : Bytes) : String :=
  String.ofList (bytes.map fun byte => Char.ofNat byte.toNat)

/-- Bytewise exclusive or, as long as the shorter of the two. -/
def xor (left right : Bytes) : Bytes := List.zipWith (· ^^^ ·) left right

/-- The last `width` base-256 digits of a number, most significant first. -/
def ofNat : (width : Nat) → Nat → Bytes
  | 0, _ => []
  | width + 1, value => UInt8.ofNat (value >>> (8 * width)) :: ofNat width value

/-- The number whose base-256 digits are given, most significant first. -/
def toNat (bytes : Bytes) : Nat := bytes.foldl (fun value byte => 256 * value + byte.toNat) 0

@[simp] theorem length_ofNat (width value : Nat) : (ofNat width value).length = width := by
  induction width with
  | zero => rfl
  | succ width ih => simp [ofNat, ih]

end Bytes

end Coffer
