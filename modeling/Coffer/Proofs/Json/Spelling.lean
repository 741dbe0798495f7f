import Coffer.Json.Number
import Coffer.Json.Text
import Coffer.Proofs.Bytes
/-!
# Spellings that are written can be read

A number is written in decimal and a text with the fewest escapes. Both spellings are recognised by
the grammar up to where they end, whatever follows, and stand for the number and the text that they
were made of.
-/

namespace Coffer.Json

theorem toNat_of_isDigit {c : Char} (digit : c.isDigit = true) : 48 ≤ c.toNat ∧ c.toNat ≤ 57 := by
  simp only [Char.isDigit, Bool.and_eq_true, decide_eq_true_eq, ge_iff_le,
    UInt32.le_iff_toNat_le] at digit
  exact digit

theorem isDigit_of_mem_toDigits {value : Nat} {c : Char} (isIn : c ∈ Nat.toDigits 10 value) :
    c.isDigit = true :=
  Nat.isDigit_of_mem_toDigits (b := 10) (by decide) (by decide) isIn

theorem isDigit_of_mem_decimal {value : Nat} {byte : UInt8} (isIn : byte ∈ decimal value) :
    isDigit byte = true := by
  obtain ⟨c, fromDigits, rfl⟩ := List.mem_map.mp isIn
  have bounds := toNat_of_isDigit (isDigit_of_mem_toDigits fromDigits)
  have small : c.toNat < 256 := by omega
  simp [isDigit, UInt8.le_iff_toNat_le, Nat.mod_eq_of_lt small, bounds]

theorem decimal_cons (value : Nat) :
    ∃ first later, decimal value = first :: later ∧ isDigit first = true := by
  cases spelled : decimal value with
  | nil => simp [decimal, Nat.toDigits_ne_nil] at spelled
  | cons first later =>
    exact ⟨first, later, rfl, isDigit_of_mem_decimal (spelled ▸ List.mem_cons_self)⟩

theorem head?_decimal_ne {value : Nat} (positive : 0 < value) :
    (decimal value).head? ≠ some 0x30 := by
  induction value using Nat.strongRecOn with
  | ind value ih =>
    by_cases small : value < 10
    · have oneDigit : ∀ digit < 10, 0 < digit → (decimal digit).head? ≠ some 0x30 := by decide
      exact oneDigit value small positive
    · have shorter := ih (value / 10) (by omega) (by omega)
      rw [decimal, Nat.toDigits_of_base_le (by decide) (by omega), List.map_append, ← decimal]
      obtain ⟨first, later, spelled, _⟩ := decimal_cons (value / 10)
      simpa [spelled] using shorter

@[simp] theorem digitsValue_decimal (value : Nat) : digitsValue (decimal value) = value := by
  have sameDigits : ∀ (digits : List Char) (start : Nat), (∀ c ∈ digits, c.isDigit = true) →
      (digits.map fun c => UInt8.ofNat c.toNat).foldl (fun value byte =>
        10 * value + (byte.toNat - 0x30)) start = Nat.ofDigitChars 10 digits start := by
    intro digits
    induction digits with
    | nil => intro start _; rfl
    | cons c others ih =>
      intro start areDigits
      have bounds := toNat_of_isDigit (areDigits c List.mem_cons_self)
      have small : c.toNat < 256 := by omega
      rw [List.map_cons, List.foldl_cons, Nat.ofDigitChars_cons,
        ih _ fun other isIn => areDigits other (List.mem_cons_of_mem c isIn)]
      simp [Nat.mod_eq_of_lt small]
  have value_eq := sameDigits (Nat.toDigits 10 value) 0 fun _ => isDigit_of_mem_toDigits
  rw [Nat.ofDigitChars_ten_toDigits] at value_eq
  exact value_eq

theorem spelledNat?_decimal {limit value : Nat} (inRange : value < limit) :
    spelledNat? limit (decimal value) = some value := by
  simp [spelledNat?, inRange]

@[simp] theorem nat?_ofNat {limit value : Nat} (inRange : value < limit) :
    (ofNat value).nat? limit = some value :=
  spelledNat?_decimal inRange

@[simp] theorem word32?_ofNat (value : UInt32) : word32? (ofNat value.toNat) = some value := by
  simp [word32?, nat?_ofNat value.toNat_lt]

@[simp] theorem word64?_ofNat (value : UInt64) : word64? (ofNat value.toNat) = some value := by
  simp [word64?, nat?_ofNat value.toNat_lt]

def endsNumber : Bytes → Bool
  | [] => true
  | byte :: _ => !isDigit byte && byte != 0x2e && byte != 0x65 && byte != 0x45

theorem endsNumber_cons {byte : UInt8} {later : Bytes} (ends : endsNumber (byte :: later) = true) :
    isDigit byte = false ∧ byte ≠ 0x2e ∧ byte ≠ 0x65 ∧ byte ≠ 0x45 := by
  simpa [endsNumber, and_assoc] using ends

theorem span_digits {digits rest : Bytes} (areDigits : ∀ byte ∈ digits, isDigit byte = true)
    (ends : endsNumber rest = true) :
    (digits ++ rest).takeWhile isDigit = digits ∧ (digits ++ rest).dropWhile isDigit = rest := by
  rw [List.takeWhile_append_of_pos areDigits, List.dropWhile_append_of_pos areDigits]
  cases rest with
  | nil => simp
  | cons byte later => simp [(endsNumber_cons ends).1]

theorem readDigits_decimal (value : Nat) {rest : Bytes} (ends : endsNumber rest = true) :
    readDigits (decimal value ++ rest) = some (decimal value, rest) := by
  have areDigits : ∀ byte ∈ decimal value, isDigit byte = true := fun _ => isDigit_of_mem_decimal
  have ⟨taken, dropped⟩ := span_digits areDigits ends
  obtain ⟨first, later, spelled, _⟩ := decimal_cons value
  rw [spelled] at taken dropped ⊢
  rw [readDigits, taken, dropped]

theorem readWhole_decimal (value : Nat) {rest : Bytes} (ends : endsNumber rest = true) :
    readWhole (decimal value ++ rest) = some (decimal value, rest) := by
  rcases Nat.eq_zero_or_pos value with rfl | positive
  · rfl
  · have nonzero := head?_decimal_ne positive
    have digits := readDigits_decimal value ends
    obtain ⟨first, later, spelled, _⟩ := decimal_cons value
    rw [spelled] at nonzero digits ⊢
    unfold readWhole
    split
    · rename_i same
      injection same with same
      exact absurd (congrArg some same) nonzero
    · exact digits

theorem readFraction_of_endsNumber {rest : Bytes} (ends : endsNumber rest = true) :
    readFraction rest = some ([], rest) := by
  unfold readFraction
  split
  · exact absurd rfl (endsNumber_cons ends).2.1
  · rfl

theorem readExponent_of_endsNumber {rest : Bytes} (ends : endsNumber rest = true) :
    readExponent rest = some ([], rest) := by
  cases rest with
  | nil => rfl
  | cons byte later =>
    have ⟨_, _, noMark, noCapital⟩ := endsNumber_cons ends
    simp [readExponent, noMark, noCapital]

theorem readUnsigned_decimal (value : Nat) {rest : Bytes} (ends : endsNumber rest = true) :
    readUnsigned (decimal value ++ rest) = some (decimal value, rest) := by
  simp [readUnsigned, readWhole_decimal value ends, readFraction_of_endsNumber ends,
    readExponent_of_endsNumber ends]

theorem readNumber_decimal (value : Nat) {rest : Bytes} (ends : endsNumber rest = true) :
    readNumber (decimal value ++ rest) = some (decimal value, rest) := by
  have unsigned := readUnsigned_decimal value ends
  obtain ⟨first, later, spelled, digit⟩ := decimal_cons value
  rw [spelled] at unsigned ⊢
  unfold readNumber
  split
  · rename_i same
    injection same with same
    exact absurd (same ▸ digit) (by decide)
  · exact unsigned

theorem control_isHexDigit {byte : UInt8} (control : byte < 0x20) :
    isHexDigit (0x30 + byte / 16) = true ∧
      isHexDigit (if byte % 16 < 10 then 0x30 + byte % 16 else 0x57 + byte % 16) = true := by
  apply Bytes.of_each_below byte control
  decide

theorem readText_visible {byte : UInt8} (tail : Bytes) (quote : byte ≠ 0x22)
    (backslash : byte ≠ 0x5c) (visible : ¬ byte < 0x20) :
    readText (byte :: tail) = (readText tail).map fun (spelling, rest) =>
      (byte :: spelling, rest) := by
  rw [readText.eq_def]
  split
  · rename_i same; cases same
  · rename_i same; injection same with same; exact absurd same quote
  · rename_i same; injection same with same; exact absurd same backslash
  · rename_i same; injection same with same; exact absurd same backslash
  · rename_i same
    injection same with sameByte sameTail
    subst sameByte sameTail
    simp only [visible, decide_false, Bool.false_or, beq_iff_eq, backslash, if_false]

theorem visible_of_isDigit {byte : UInt8} (digit : isDigit byte = true) :
    byte ≠ 0x22 ∧ byte ≠ 0x5c ∧ ¬ byte < 0x20 := by
  simp only [isDigit, Bool.and_eq_true, decide_eq_true_eq] at digit
  refine ⟨?_, ?_, ?_⟩
  · rintro rfl; exact absurd digit (by decide)
  · rintro rfl; exact absurd digit (by decide)
  · exact UInt8.not_lt.mpr (UInt8.le_trans (by decide) digit.1)

theorem readText_unicode {a b c d : UInt8} (tail : Bytes)
    (hex : (isHexDigit a && isHexDigit b && isHexDigit c && isHexDigit d) = true) :
    readText (0x5c :: 0x75 :: a :: b :: c :: d :: tail) =
      (readText tail).map fun (spelling, rest) =>
        (0x5c :: 0x75 :: a :: b :: c :: d :: spelling, rest) := by
  have unfolded : readText (0x5c :: 0x75 :: a :: b :: c :: d :: tail) =
      if isHexDigit a && isHexDigit b && isHexDigit c && isHexDigit d then
        (readText tail).map fun (spelling, rest) =>
          (0x5c :: 0x75 :: a :: b :: c :: d :: spelling, rest)
      else none := rfl
  rw [unfolded, if_pos hex]

theorem readText_escapeByte (byte : UInt8) (tail : Bytes) :
    readText (escapeByte byte ++ tail) =
      (readText tail).map fun (spelling, rest) => (escapeByte byte ++ spelling, rest) := by
  unfold escapeByte
  split
  · rfl
  split
  · rfl
  split
  · rfl
  split
  · rfl
  split
  · rfl
  split
  · rfl
  split
  · rfl
  split
  · rename_i control
    have ⟨high, low⟩ := control_isHexDigit control
    exact readText_unicode tail (by rw [high, low]; rfl)
  · rename_i quote backslash _ _ _ _ _ visible
    exact readText_visible tail quote backslash visible

theorem readText_flatMap (bytes rest : Bytes) :
    readText (bytes.flatMap escapeByte ++ 0x22 :: rest) =
      some (bytes.flatMap escapeByte, rest) := by
  induction bytes with
  | nil => rfl
  | cons byte later ih =>
    rw [List.flatMap_cons, List.append_assoc, readText_escapeByte, ih]
    rfl

theorem readText_escape (text : String) (rest : Bytes) :
    readText (escape text ++ 0x22 :: rest) = some (escape text, rest) :=
  readText_flatMap (Bytes.ofText text) rest

theorem readText_digits {digits : Bytes} (areDigits : ∀ byte ∈ digits, isDigit byte = true)
    (rest : Bytes) : readText (digits ++ 0x22 :: rest) = some (digits, rest) := by
  induction digits with
  | nil => rfl
  | cons byte later ih =>
    have ⟨quote, backslash, visible⟩ := visible_of_isDigit (areDigits byte List.mem_cons_self)
    rw [List.cons_append, readText_visible _ quote backslash visible,
      ih fun other isIn => areDigits other (List.mem_cons_of_mem byte isIn)]
    rfl

theorem unit_control {byte : UInt8} (control : byte < 0x20) :
    unit 0x30 0x30 (0x30 + byte / 16)
      (if byte % 16 < 10 then 0x30 + byte % 16 else 0x57 + byte % 16) =
      byte.toNat := by
  apply Bytes.of_each_below byte control
  decide

theorem unescape_unicode {a b c d byte : UInt8} (tail : Bytes) (number : unit a b c d = byte.toNat)
    (ascii : byte < 0x80) :
    unescape none (0x5c :: 0x75 :: a :: b :: c :: d :: tail) =
      (unescape none tail).map (byte :: ·) := by
  have small : byte.toNat < 0x80 := UInt8.lt_iff_toNat_lt.mp ascii
  have unfolded : unescape none (0x5c :: 0x75 :: a :: b :: c :: d :: tail) =
      if isLeading (unit a b c d) then unescape (some (unit a b c d)) tail
      else if isTrailing (unit a b c d) then none
      else (unescape none tail).map (encodePoint (unit a b c d) ++ ·) := rfl
  have notLeading : ¬ isLeading byte.toNat = true := by simp [isLeading]; omega
  have notTrailing : ¬ isTrailing byte.toNat = true := by simp [isTrailing]; omega
  rw [unfolded, number, if_neg notLeading, if_neg notTrailing, encodePoint,
    Bytes.ofText_singleton small, UInt8.ofNat_toNat]
  rfl

theorem unescape_cons {byte : UInt8} (tail : Bytes) (backslash : byte ≠ 0x5c) :
    unescape none (byte :: tail) = (unescape none tail).map (byte :: ·) := by
  rw [unescape.eq_def]
  split
  · rename_i same; cases same
  · rename_i same; injection same with same; exact absurd same backslash
  · rename_i same; injection same with same; exact absurd same backslash
  · rename_i same
    injection same with sameByte sameTail
    subst sameByte sameTail
    rfl

theorem unescape_escapeByte (byte : UInt8) (tail : Bytes) :
    unescape none (escapeByte byte ++ tail) = (unescape none tail).map (byte :: ·) := by
  unfold escapeByte
  split
  · subst_vars; rfl
  split
  · subst_vars; rfl
  split
  · subst_vars; rfl
  split
  · subst_vars; rfl
  split
  · subst_vars; rfl
  split
  · subst_vars; rfl
  split
  · subst_vars; rfl
  split
  · rename_i control
    exact unescape_unicode tail (unit_control control) (UInt8.lt_trans control (by decide))
  · rename_i backslash _ _ _ _ _ _
    exact unescape_cons tail backslash

theorem unescape_flatMap (bytes : Bytes) :
    unescape none (bytes.flatMap escapeByte) = some bytes := by
  induction bytes with
  | nil => rfl
  | cons byte later ih => rw [List.flatMap_cons, unescape_escapeByte, ih]; rfl

/-- The spelling of a text stands for that text. -/
@[simp] theorem spelledText?_escape (text : String) : spelledText? (escape text) = some text := by
  rw [spelledText?, escape, unescape_flatMap]
  exact Bytes.toText?_ofText text

@[simp] theorem text?_ofText (text : String) : (ofText text).text? = some text :=
  spelledText?_escape text

end Coffer.Json
