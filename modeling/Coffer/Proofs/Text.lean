import Coffer.Text.Blank
import Coffer.Text.Compatibility
import Coffer.Text.LowerCase
/-!
# Text in small letters

Small ASCII letters are no white space and are their own lower-case form and decomposition, so a
text of them comes through normalisation as it is, and its words are read as they were written.
-/

namespace Coffer.Text

def isSmall (c : Char) : Bool := 0x61 ≤ c.toNat && c.toNat ≤ 0x7a

/-- The characters that small words with one space between them are made of. -/
def isPlain (c : Char) : Bool := isSmall c || c == ' '

variable {c : Char} {text word : List Char} {parts : List (List Char)}

theorem spaced_singleton (word : List Char) : spaced [word] = word := by simp [spaced]

theorem spaced_cons_cons (word second : List Char) (others : List (List Char)) :
    spaced (word :: second :: others) = word ++ ' ' :: spaced (second :: others) := by
  simp [spaced]

theorem isBlank_of_isSmall (small : isSmall c = true) : isBlank c = false := by
  simp only [isSmall, Bool.and_eq_true, decide_eq_true_eq] at small
  simp only [isBlank, Bool.or_eq_false_iff, Bool.and_eq_false_iff, decide_eq_false_iff_not,
    beq_eq_false_iff_ne]
  omega

theorem wordsAfter_append (reversed : List Char) {rest : List Char}
    (solid : ∀ c ∈ word, isBlank c = false) :
    wordsAfter reversed (word ++ rest) = wordsAfter (word.reverse ++ reversed) rest := by
  induction word generalizing reversed with
  | nil => rfl
  | cons c word ih =>
    rw [List.cons_append, wordsAfter, if_neg (by simp [solid c List.mem_cons_self]),
      ih (c :: reversed) fun d isIn => solid d (List.mem_cons_of_mem c isIn), List.reverse_cons,
      List.append_assoc]
    rfl

theorem closeWord_reverse (nonempty : word ≠ []) (later : List (List Char)) :
    closeWord word.reverse later = word :: later := by
  simp [closeWord, nonempty]

theorem words_spaced (solid : ∀ word ∈ parts, word ≠ [] ∧ ∀ c ∈ word, isBlank c = false) :
    words (spaced parts) = parts := by
  induction parts with
  | nil => rfl
  | cons word others ih =>
    obtain ⟨nonempty, wordSolid⟩ := solid word List.mem_cons_self
    have ih := ih fun other isIn => solid other (List.mem_cons_of_mem word isIn)
    have closed (later : List Char) : words (word ++ ' ' :: later) = word :: words later := by
      rw [words, wordsAfter_append [] wordSolid, List.append_nil, wordsAfter, if_pos (by decide),
        closeWord_reverse nonempty]
      rfl
    cases others with
    | nil =>
      have read : wordsAfter [] (word ++ []) = wordsAfter (word.reverse ++ []) [] :=
        wordsAfter_append [] wordSolid
      rw [List.append_nil, List.append_nil, wordsAfter, closeWord_reverse nonempty] at read
      rw [spaced_singleton]
      exact read
    | cons second others => rw [spaced_cons_cons, closed, ih]

theorem allBlank_append {label : String} (labelled : allBlank label = false) (rest : String) :
    allBlank (label ++ rest) = false := by
  rw [allBlank, String.toList_append, List.all_append]
  rw [allBlank] at labelled
  rw [labelled, Bool.false_and]

theorem ascii_of_isPlain (plain : isPlain c = true) : c.toNat < 0x80 ∧ c.toLower = c := by
  have range : (0x61 ≤ c.toNat ∧ c.toNat ≤ 0x7a) ∨ c = ' ' := by
    simpa [isPlain, isSmall] using plain
  rcases range with ⟨least, most⟩ | rfl
  · refine ⟨by omega, ?_⟩
    have noCapital : ¬ (c.val ≥ 'A'.val ∧ c.val ≤ 'Z'.val) := by
      rw [ge_iff_le, UInt32.le_iff_toNat_le, UInt32.le_iff_toNat_le]
      exact fun ⟨_, small⟩ => absurd (Nat.le_trans least small) (by decide)
    exact dif_neg noCapital
  · decide

theorem flatMap_of_each {step : Char → List Char} (each : ∀ c ∈ text, step c = [c]) :
    text.flatMap step = text := by
  induction text with
  | nil => rfl
  | cons c text ih =>
    rw [List.flatMap_cons, each c List.mem_cons_self, ih fun d isIn =>
      each d (List.mem_cons_of_mem c isIn)]
    rfl

theorem lower_of_plain (plain : ∀ c ∈ text, isPlain c = true) : lower text = text := by
  refine flatMap_of_each fun c isIn => ?_
  obtain ⟨ascii, same⟩ := ascii_of_isPlain (plain c isIn)
  rw [lowerChar, if_pos ascii, same]

namespace Compatibility

theorem insertMark_of_plain {d : Char} (c : Char) (plain : isPlain d = true) (rest : List Char) :
    insertMark c (d :: rest) = c :: d :: rest := by
  have unmarked : combiningClass d = 0 :=
    if_pos (Nat.lt_trans (ascii_of_isPlain plain).1 (by decide))
  rw [insertMark, if_neg fun isMark => isMark.1 unmarked]

theorem decompose_of_plain (plain : ∀ c ∈ text, isPlain c = true) : decompose text = text := by
  have undone : text.flatMap decomposeChar = text :=
    flatMap_of_each fun c isIn => if_pos (ascii_of_isPlain (plain c isIn)).1
  rw [decompose, undone]
  clear undone
  induction text with
  | nil => rfl
  | cons c text ih =>
    have plainLater : ∀ d ∈ text, isPlain d = true :=
      fun d isIn => plain d (List.mem_cons_of_mem c isIn)
    have ih : text.foldr insertMark [] = text := ih plainLater
    rw [orderMarks, List.foldr_cons, ih]
    cases text with
    | nil => rfl
    | cons d text => exact insertMark_of_plain c (plainLater d List.mem_cons_self) text

end Compatibility

theorem plain_spaced (small : ∀ word ∈ parts, ∀ c ∈ word, isSmall c = true) :
    ∀ c ∈ spaced parts, isPlain c = true := by
  induction parts with
  | nil => exact fun c isIn => nomatch isIn
  | cons word others ih =>
    have ih := ih fun other isIn => small other (List.mem_cons_of_mem word isIn)
    have plainWord (c : Char) (isIn : c ∈ word) : isPlain c = true := by
      simp [isPlain, small word List.mem_cons_self c isIn]
    intro c isIn
    cases others with
    | nil => exact plainWord c (spaced_singleton word ▸ isIn)
    | cons second others =>
      rw [spaced_cons_cons, List.mem_append, List.mem_cons] at isIn
      rcases isIn with inWord | rfl | inLater
      · exact plainWord c inWord
      · rfl
      · exact ih c inLater

end Coffer.Text
