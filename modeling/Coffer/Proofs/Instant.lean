import Coffer.Instant
import Coffer.Proofs.Json.Spelling
/-!
# Points in time that are written can be read

The text of a point in time has fixed widths for everything but the year, which the reader takes to
the last digit where it has a sign. Reading the text gives back the same point in time, nanoseconds
and leap second included.
-/

namespace Coffer.Instant

theorem isDigit_of_isDigit {c : Char} (digit : c.isDigit = true) : isDigit c = true := by
  simp only [Char.isDigit, Bool.and_eq_true, decide_eq_true_eq] at digit
  simp only [isDigit, Bool.and_eq_true, decide_eq_true_eq]
  exact digit

theorem isDigit_of_mem_padded {width value : Nat} {c : Char} (isIn : c ∈ padded width value) :
    isDigit c = true := by
  rcases List.mem_append.mp isIn with zero | digit
  · rw [(List.mem_replicate.mp zero).2]
    rfl
  · exact isDigit_of_isDigit (Json.isDigit_of_mem_toDigits digit)

theorem padded_cons (width value : Nat) :
    ∃ first others, padded width value = first :: others ∧ isDigit first = true := by
  cases spelled : padded width value with
  | nil => simp [padded, Nat.toDigits_ne_nil] at spelled
  | cons first others =>
    exact ⟨first, others, rfl, isDigit_of_mem_padded (spelled ▸ List.mem_cons_self)⟩

theorem digitsValue_padded (width value : Nat) : digitsValue (padded width value) = value := by
  have unfolded (digits : List Char) : digitsValue digits = Nat.ofDigitChars 10 digits 0 := rfl
  rw [unfolded, padded, Nat.ofDigitChars_append, Nat.ofDigitChars_replicate_zero, Nat.mul_zero,
    Nat.ofDigitChars_ten_toDigits]

theorem length_padded {width value : Nat} (positive : 0 < width) (fits : value < Nat.pow 10 width) :
    (padded width value).length = width := by
  have short := (Nat.length_toDigits_le_iff (by decide) positive).mpr fits
  simp only [padded, List.length_append, List.length_replicate]
  omega

def endsDigits : List Char → Bool
  | [] => true
  | c :: _ => !isDigit c

theorem takeWhile_padded (width value : Nat) {rest : List Char} (ends : endsDigits rest = true) :
    (padded width value ++ rest).takeWhile isDigit = padded width value := by
  rw [List.takeWhile_append_of_pos fun _ => isDigit_of_mem_padded]
  cases rest with
  | nil => simp
  | cons c later =>
    have notDigit : isDigit c = false := by simpa [endsDigits] using ends
    simp [notDigit]

theorem endsDigits_take (count : Nat) {rest : List Char} (ends : endsDigits rest = true) :
    endsDigits (rest.take count) = true := by
  cases rest with
  | nil => simp [endsDigits]
  | cons c later =>
    cases count with
    | zero => rfl
    | succ count => exact ends

theorem takeWhile_take_padded {width value limit : Nat} {rest : List Char}
    (fits : (padded width value).length ≤ limit) (ends : endsDigits rest = true) :
    ((padded width value ++ rest).take limit).takeWhile isDigit = padded width value := by
  rw [List.take_append, List.take_of_length_le fits]
  exact takeWhile_padded width value (endsDigits_take _ ends)

theorem number?_padded {width value limit : Nat} {rest : List Char}
    (fits : (padded width value).length ≤ limit) (ends : endsDigits rest = true) :
    number? limit (padded width value ++ rest) = some (value, rest) := by
  have digits := takeWhile_take_padded fits ends
  unfold number?
  split
  · rename_i none_found
    obtain ⟨first, others, spelled, _⟩ := padded_cons width value
    rw [digits, spelled] at none_found
    cases none_found
  · rw [digits, digitsValue_padded, List.drop_left]

theorem isBlank_of_isDigit {c : Char} (digit : isDigit c = true) : Text.isBlank c = false := by
  have bounds : 48 ≤ c.toNat ∧ c.toNat ≤ 57 := by
    simp only [isDigit, Bool.and_eq_true, decide_eq_true_eq, Char.le_def,
      UInt32.le_iff_toNat_le] at digit
    exact digit
  simp [Text.isBlank]
  omega

theorem trimStart_cons {c : Char} (rest : List Char) (visible : Text.isBlank c = false) :
    trimStart (c :: rest) = c :: rest := by
  simp [trimStart, visible]

theorem trimStart_padded (width value : Nat) (rest : List Char) :
    trimStart (padded width value ++ rest) = padded width value ++ rest := by
  obtain ⟨first, others, spelled, digit⟩ := padded_cons width value
  rw [spelled, List.cons_append, trimStart_cons _ (isBlank_of_isDigit digit)]

theorem part?_padded {value : Nat} {rest : List Char} (small : value < 100)
    (ends : endsDigits rest = true) : part? (padded 2 value ++ rest) = some (value, rest) := by
  rw [part?, trimStart_padded]
  exact number?_padded (Nat.le_of_eq (length_padded (by decide) small)) ends

theorem mark?_cons {mark : Char} (rest : List Char) (visible : Text.isBlank mark = false) :
    mark? mark (mark :: rest) = some rest := by
  simp [mark?, trimStart_cons rest visible]

theorem year?_of_isDigit {first : Char} (later : List Char) (digit : isDigit first = true) :
    year? (first :: later) =
      (number? 4 (first :: later)).map fun (value, rest) => ((value : Int), rest) := by
  rw [year?, trimStart_cons later (isBlank_of_isDigit digit)]
  split
  · rename_i same
    injection same with same
    exact absurd (same ▸ digit) (by decide)
  · rename_i same
    injection same with same
    exact absurd (same ▸ digit) (by decide)
  · rfl

theorem year?_yearText (year : Int) {rest : List Char} (ends : endsDigits rest = true) :
    year? (yearText year ++ rest) = some (year, rest) := by
  have signed : number? (padded 4 year.natAbs ++ rest).length (padded 4 year.natAbs ++ rest) =
      some (year.natAbs, rest) :=
    number?_padded (by simp) ends
  unfold yearText
  split
  · rename_i negative
    have unfolded (text : List Char) : year? ('-' :: text) =
        (number? text.length text).map fun (value, rest) => (-(value : Int), rest) := rfl
    rw [List.cons_append, unfolded, signed, Option.map_some]
    simp only [Option.some.injEq, Prod.mk.injEq, and_true]
    omega
  split
  · rename_i notNegative large
    have unfolded (text : List Char) : year? ('+' :: text) =
        (number? text.length text).map fun (value, rest) => ((value : Int), rest) := rfl
    rw [List.cons_append, unfolded, signed, Option.map_some]
    simp only [Option.some.injEq, Prod.mk.injEq, and_true]
    omega
  · rename_i notNegative notLarge
    have small : year.natAbs < 10000 := by omega
    have fits : (padded 4 year.natAbs).length ≤ 4 := Nat.le_of_eq (length_padded (by decide) small)
    have plain : number? 4 (padded 4 year.natAbs ++ rest) = some (year.natAbs, rest) :=
      number?_padded fits ends
    obtain ⟨first, others, spelled, digit⟩ := padded_cons 4 year.natAbs
    rw [spelled, List.cons_append] at plain ⊢
    rw [year?_of_isDigit _ digit, plain, Option.map_some]
    simp only [Option.some.injEq, Prod.mk.injEq, and_true]
    omega

theorem fraction?_padded {width value : Nat} {rest : List Char} (positive : 0 < width)
    (short : width ≤ 9) (fits : value < Nat.pow 10 width) (ends : endsDigits rest = true) :
    fraction? ('.' :: (padded width value ++ rest)) =
      some (value * Nat.pow 10 (9 - width), rest) := by
  have length := length_padded positive fits
  have digits : ((padded width value ++ rest).take 9).takeWhile isDigit = padded width value :=
    takeWhile_take_padded (by omega) ends
  have dropped : rest.dropWhile isDigit = rest := by
    cases rest with
    | nil => rfl
    | cons c later =>
      have notDigit : isDigit c = false := by simpa [endsDigits] using ends
      simp [notDigit]
  simp only [fraction?]
  split
  · rename_i none_found
    obtain ⟨first, others, spelled, _⟩ := padded_cons width value
    rw [digits, spelled] at none_found
    cases none_found
  · rw [digits, digitsValue_padded, List.drop_left, dropped, length]

theorem fraction?_fractionText {nanosecond : Nat} (small : nanosecond < 1000000000)
    (rest : List Char) :
    fraction? (fractionText nanosecond ++ 'Z' :: rest) = some (nanosecond, 'Z' :: rest) := by
  unfold fractionText
  split
  · rename_i zero
    rw [zero]
    rfl
  split
  · have fits : nanosecond / 1000000 < 1000 := by omega
    rw [List.cons_append, fraction?_padded (by decide) (by decide) fits rfl]
    simp only [Option.some.injEq, Prod.mk.injEq, and_true]
    change nanosecond / 1000000 * 1000000 = nanosecond
    omega
  split
  · have fits : nanosecond / 1000 < 1000000 := by omega
    rw [List.cons_append, fraction?_padded (by decide) (by decide) fits rfl]
    simp only [Option.some.injEq, Prod.mk.injEq, and_true]
    change nanosecond / 1000 * 1000 = nanosecond
    omega
  · rw [List.cons_append, fraction?_padded (by decide) (by decide) small rfl]
    simp only [Option.some.injEq, Prod.mk.injEq, and_true]
    change nanosecond * 1 = nanosecond
    omega

theorem ofLocal?_zero (instant : Instant) :
    ofLocal? instant.year instant.month instant.day instant.hour instant.minute instant.second
      instant.nanosecond 0 = some instant := by
  obtain ⟨year, month, day, hour, minute, second, nanosecond, dateExists, timeExists⟩ := instant
  have bounds := timeExists
  simp only [isTime, Bool.and_eq_true, decide_eq_true_eq] at bounds
  obtain ⟨⟨⟨hours, minutes⟩, _⟩, _⟩ := bounds
  have notBefore : ¬ 60 * (hour : Int) + minute - 0 < 0 := by omega
  have notAfter : ¬ 1440 ≤ 60 * (hour : Int) + minute - 0 := by omega
  have ofDay : ((60 * (hour : Int) + minute - 0) % 1440).toNat = 60 * hour + minute := by omega
  have hourOfDay : (60 * hour + minute) / 60 = hour := by omega
  have minuteOfHour : (60 * hour + minute) % 60 = minute := by omega
  simp only [ofLocal?, dateExists, timeExists, Bool.and_self, if_true, notBefore, notAfter,
    if_false, ofDay, hourOfDay, minuteOfHour, ofParts?, dif_pos]

theorem ofText?_toText (instant : Instant) : ofText? instant.toText = some instant := by
  have date := instant.date_exists
  have time := instant.time_exists
  simp only [isDate, isTime, Bool.and_eq_true, decide_eq_true_eq] at date time
  have monthSmall : instant.month < 100 := by omega
  have daySmall : instant.day < 100 := by
    have : daysInMonth instant.year instant.month ≤ 31 := by
      unfold daysInMonth
      split <;> (try split) <;> decide
    omega
  have hourSmall : instant.hour < 100 := by omega
  have minuteSmall : instant.minute < 100 := by omega
  have secondSmall : instant.second < 100 := by omega
  -- Every part is followed by something that ends its digits.
  have fractionEnds : endsDigits (fractionText instant.nanosecond ++ ['Z']) = true := by
    unfold fractionText
    split
    · rfl
    split
    · rfl
    split <;> rfl
  have dash (rest : List Char) : endsDigits ('-' :: rest) = true := rfl
  have colon (rest : List Char) : endsDigits (':' :: rest) = true := rfl
  have letter (rest : List Char) : endsDigits ('T' :: rest) = true := rfl
  have afterDash (rest : List Char) : mark? '-' ('-' :: rest) = some rest := mark?_cons rest rfl
  have afterColon (rest : List Char) : mark? ':' (':' :: rest) = some rest := mark?_cons rest rfl
  have offset : offset? (trimStart ['Z']) = some (0, []) := rfl
  simp only [ofText?, toText, String.toList_ofList, List.append_assoc, List.cons_append,
    Option.bind_eq_bind, Option.bind_some, year?_yearText _ (dash _), afterDash, afterColon,
    part?_padded monthSmall (dash _), part?_padded daySmall (letter _),
    part?_padded hourSmall (colon _), part?_padded minuteSmall (colon _),
    part?_padded secondSmall fractionEnds, fraction?_fractionText time.2, offset]
  exact ofLocal?_zero instant

end Coffer.Instant
