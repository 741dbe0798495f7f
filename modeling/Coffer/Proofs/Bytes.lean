import Coffer.Bytes
/-!
# Text in ASCII

Bytes below 128 are their own UTF-8 encoding, so a text that is made of such bytes gives them back.
-/

namespace Coffer.Bytes

theorem of_each_below {bound : UInt8} {p : UInt8 → Prop} (byte : UInt8) (below : byte < bound)
    (each : ∀ number < bound.toNat, p (UInt8.ofNat number)) : p byte := by
  have found := each byte.toNat (UInt8.lt_iff_toNat_lt.mp below)
  rwa [UInt8.ofNat_toNat] at found

theorem ofText_ofList (characters : List Char) :
    ofText (String.ofList characters) = characters.flatMap String.utf8EncodeChar := by
  simp [ofText, List.utf8Encode]

theorem utf8EncodeChar_ofNat {number : Nat} (ascii : number < 0x80) :
    String.utf8EncodeChar (Char.ofNat number) = [UInt8.ofNat number] := by
  have each : ∀ number < 0x80, String.utf8EncodeChar (Char.ofNat number) = [UInt8.ofNat number] :=
    by decide
  exact each number ascii

theorem ofText_singleton {number : Nat} (ascii : number < 0x80) :
    ofText (String.singleton (Char.ofNat number)) = [UInt8.ofNat number] := by
  rw [← utf8EncodeChar_ofNat ascii]
  simp [ofText, List.utf8Encode]

def IsAscii (bytes : Bytes) : Prop := ∀ byte ∈ bytes, byte < 0x80

instance (bytes : Bytes) : Decidable (IsAscii bytes) :=
  inferInstanceAs (Decidable (∀ byte ∈ bytes, byte < 0x80))

theorem isAscii_nil : IsAscii [] := fun _ isIn => nomatch isIn

theorem IsAscii.cons {byte : UInt8} {later : Bytes} (first : byte < 0x80) (others : IsAscii later) :
    IsAscii (byte :: later) := by
  intro other isIn
  rcases List.mem_cons.mp isIn with rfl | inLater
  · exact first
  · exact others other inLater

theorem IsAscii.append {left right : Bytes} (first : IsAscii left) (second : IsAscii right) :
    IsAscii (left ++ right) := by
  intro byte isIn
  rcases List.mem_append.mp isIn with inLeft | inRight
  · exact first byte inLeft
  · exact second byte inRight

theorem IsAscii.flatMap {bytes : Bytes} {spell : UInt8 → Bytes}
    (each : ∀ byte ∈ bytes, IsAscii (spell byte)) : IsAscii (bytes.flatMap spell) := by
  intro byte isIn
  obtain ⟨origin, inBytes, inSpelling⟩ := List.mem_flatMap.mp isIn
  exact each origin inBytes byte inSpelling

theorem ofText_asciiText {bytes : Bytes} (ascii : IsAscii bytes) :
    ofText (asciiText bytes) = bytes := by
  rw [asciiText, ofText_ofList, List.flatMap_map]
  induction bytes with
  | nil => rfl
  | cons byte later ih =>
    have small : byte.toNat < 0x80 := UInt8.lt_iff_toNat_lt.mp (ascii byte List.mem_cons_self)
    rw [List.flatMap_cons, utf8EncodeChar_ofNat small, UInt8.ofNat_toNat,
      ih fun other isIn => ascii other (List.mem_cons_of_mem byte isIn)]
    rfl

end Coffer.Bytes
