import Coffer.Proofs.Text
/-!
# Texts that differ in case and white space

Of a text of small words with one space between them, whoever types it may change the case of
letters, write more or other white space between the words, and white space at both ends. The words
of what is typed are the same but for the case of their letters.
-/

namespace Coffer.Text

/-- A text with the case of letters changed and other white space for every space, and with white
space after it. -/
inductive Loosens : (text typed : List Char) → Prop
  | finish {gap : List Char} (blank : ∀ c ∈ gap, isBlank c = true) : Loosens [] gap
  | letter {c d : Char} {text typed : List Char} (same : c.toLower = d.toLower)
    (rest : Loosens text typed) : Loosens (c :: text) (d :: typed)
  | space {gap text typed : List Char} (nonempty : gap ≠ []) (blank : ∀ c ∈ gap, isBlank c = true)
    (rest : Loosens text typed) : Loosens (' ' :: text) (gap ++ typed)

/-- Such a text with white space in front of it as well. -/
def Respells (text typed : List Char) : Prop :=
  ∃ gap rest, (∀ c ∈ gap, isBlank c = true) ∧ Loosens text rest ∧ typed = gap ++ rest

variable {c : Char} {gap text typed : List Char} {parts : List (List Char)}

theorem Loosens.word {word other : List Char}
    (same : word.map Char.toLower = other.map Char.toLower)
    (rest : Loosens text typed) : Loosens (word ++ text) (other ++ typed) := by
  induction word generalizing other with
  | nil =>
    cases other with
    | nil => exact rest
    | cons d other => cases same
  | cons c word ih =>
    cases other with
    | nil => cases same
    | cons d other =>
      obtain ⟨first, later⟩ := List.cons.inj same
      exact .letter first (ih later)

theorem loosens_append (text : List Char) (blank : ∀ c ∈ gap, isBlank c = true) :
    Loosens text (text ++ gap) := by
  have rest : Loosens (text ++ []) (text ++ gap) := .word rfl (.finish blank)
  rwa [List.append_nil] at rest

theorem respells_self (text : List Char) : Respells text text := by
  have same : Loosens text (text ++ []) := loosens_append text fun _ isIn => nomatch isIn
  rw [List.append_nil] at same
  exact ⟨[], text, (fun _ isIn => nomatch isIn), same, rfl⟩

theorem ascii_of_toLower (plain : isPlain c.toLower = true) : c.toNat < 0x80 := by
  by_cases capital : c.val ≥ 'A'.val ∧ c.val ≤ 'Z'.val
  · exact Nat.lt_of_le_of_lt (UInt32.le_iff_toNat_le.mp capital.2) (by decide)
  · have same : c.toLower = c := dif_neg capital
    exact (ascii_of_isPlain (same ▸ plain)).1

theorem of_each_ascii {p : Char → Prop} (ascii : c.toNat < 0x80)
    (each : ∀ number < 0x80, p (Char.ofNat number)) : p c := by
  have found := each c.toNat ascii
  rwa [Char.ofNat_toNat] at found

theorem eq_space_of_toLower (isSpace : c.toLower = ' ') : c = ' ' := by
  have ascii : c.toNat < 0x80 := ascii_of_toLower (by rw [isSpace]; rfl)
  exact of_each_ascii (p := fun c => c.toLower = ' ' → c = ' ') ascii (by decide) isSpace

theorem isBlank_of_toLower (small : isSmall c.toLower = true) : isBlank c = false := by
  have ascii : c.toNat < 0x80 := ascii_of_toLower (by rw [isPlain, small]; rfl)
  exact of_each_ascii (p :=
    fun c => isSmall c.toLower = true → isBlank c = false) ascii (by decide) small

theorem lower_of_ascii (ascii : ∀ c ∈ text, c.toNat < 0x80) :
    lower text = text.map Char.toLower := by
  have each : ∀ c ∈ text, lowerChar c = [c.toLower] := fun c isIn => if_pos (ascii c isIn)
  rw [lower, List.flatMap_def, List.map_congr_left each, ← List.flatMap_def]
  exact List.map_eq_flatMap.symm

theorem map_closeWord (reversed : List Char) (later : List (List Char)) (change : Char → Char) :
    (closeWord reversed later).map (List.map change) = closeWord (reversed.map change)
    (later.map (List.map change)) := by
  cases reversed with
  | nil => rfl
  | cons c others => simp [closeWord]

theorem words_append_of_blank (blank : ∀ c ∈ gap, isBlank c = true) (text : List Char) :
    words (gap ++ text) = words text := by
  induction gap with
  | nil => rfl
  | cons c gap ih =>
    have rest := ih fun d isIn => blank d (List.mem_cons_of_mem c isIn)
    rw [List.cons_append, words, wordsAfter, if_pos (blank c List.mem_cons_self)]
    exact rest

theorem wordsAfter_append_of_blank (reversed : List Char) (nonempty : gap ≠ [])
    (blank : ∀ c ∈ gap, isBlank c = true) (text : List Char) :
    wordsAfter reversed (gap ++ text) = closeWord reversed (words text) := by
  cases gap with
  | nil => exact absurd rfl nonempty
  | cons c gap =>
    rw [List.cons_append, wordsAfter, if_pos (blank c List.mem_cons_self)]
    exact congrArg (closeWord reversed)
      (words_append_of_blank (fun d isIn => blank d (List.mem_cons_of_mem c isIn)) text)

theorem wordsAfter_space (reversed text : List Char) :
    wordsAfter reversed (' ' :: text) = closeWord reversed (words text) := if_pos (by decide)

/-- What was collected of a word differs in case only, and so do the words that follow. -/
theorem Loosens.wordsAfter (loosens : Loosens text typed) (plain : ∀ c ∈ text, isPlain c = true)
    (reversed : List Char) :
    (wordsAfter reversed typed).map (List.map Char.toLower) =
      Text.wordsAfter (reversed.map Char.toLower) text := by
  induction loosens generalizing reversed with
  | @finish gap blank =>
    by_cases isEmpty : gap = []
    · subst isEmpty
      exact map_closeWord reversed [] Char.toLower
    · rw [← List.append_nil gap, wordsAfter_append_of_blank reversed isEmpty blank, map_closeWord]
      rfl
  | @letter c d text typed same rest ih =>
    have later := ih fun e isIn => plain e (List.mem_cons_of_mem c isIn)
    have isPlain := plain c List.mem_cons_self
    have own : c.toLower = c := (ascii_of_isPlain isPlain).2
    rw [own] at same
    rcases Bool.or_eq_true_iff.mp isPlain with small | isSpace
    · have solid : isBlank d = false := isBlank_of_toLower (same ▸ small)
      rw [Text.wordsAfter, if_neg (by simp [solid]), later, List.map_cons, ← same, Text.wordsAfter,
        if_neg (by simp [isBlank_of_isSmall small])]
    · cases (beq_iff_eq.mp isSpace)
      cases eq_space_of_toLower same.symm
      rw [wordsAfter_space, wordsAfter_space, map_closeWord]
      exact congrArg _ (later [])
  | space nonempty blank rest ih =>
    have later := ih fun e isIn => plain e (List.mem_cons_of_mem ' ' isIn)
    rw [wordsAfter_append_of_blank reversed nonempty blank, wordsAfter_space, map_closeWord]
    exact congrArg _ (later [])

theorem Respells.words (respells : Respells text typed) (plain : ∀ c ∈ text, isPlain c = true) :
    (Text.words typed).map (List.map Char.toLower) = Text.words text := by
  obtain ⟨gap, rest, blank, loosens, rfl⟩ := respells
  rw [words_append_of_blank blank]
  exact loosens.wordsAfter plain []

theorem map_spaced (parts : List (List Char)) (change : Char → Char) (same : change ' ' = ' ') :
    (spaced parts).map change = spaced (parts.map (List.map change)) := by
  induction parts with
  | nil => rfl
  | cons word others ih =>
    cases others with
    | nil => rw [List.map_singleton, spaced_singleton, spaced_singleton]
    | cons second others =>
      rw [spaced_cons_cons, List.map_append, List.map_cons, ih, same]
      exact (spaced_cons_cons _ _ _).symm

theorem lower_spaced (small : ∀ word ∈ parts, ∀ c ∈ word, isSmall c.toLower = true) :
    lower (spaced parts) = spaced (parts.map (List.map Char.toLower)) := by
  rw [← map_spaced parts Char.toLower (by decide)]
  refine lower_of_ascii fun c isIn => ascii_of_toLower ?_
  have plain : ∀ d ∈ (spaced parts).map Char.toLower, isPlain d = true := by
    rw [map_spaced parts Char.toLower (by decide)]
    refine plain_spaced fun part isPart d isIn => ?_
    obtain ⟨word, isWord, rfl⟩ := List.mem_map.mp isPart
    obtain ⟨e, inWord, rfl⟩ := List.mem_map.mp isIn
    exact small word isWord e inWord
  exact plain c.toLower (List.mem_map_of_mem isIn)

theorem words_of_respells (solid : ∀ word ∈ parts, word ≠ [] ∧ ∀ c ∈ word, isSmall c = true)
    (respells : Respells (spaced parts) typed) :
    words (Compatibility.decompose (lower (spaced (words typed)))) = parts := by
  have small : ∀ word ∈ parts, ∀ c ∈ word, isSmall c = true := fun word isIn => (solid word isIn).2
  have read : words (spaced parts) = parts :=
    words_spaced fun word isIn =>
      ⟨(solid word isIn).1, fun c inWord => isBlank_of_isSmall (small word isIn c inWord)⟩
  have same := (respells.words (plain_spaced small)).trans read
  have lowered : lower (spaced (words typed)) = spaced parts := by
    rw [lower_spaced, same]
    intro word isWord c isIn
    have isPart : word.map Char.toLower ∈ parts := same ▸ List.mem_map_of_mem isWord
    exact small _ isPart _ (List.mem_map_of_mem isIn)
  rw [lowered, Compatibility.decompose_of_plain (plain_spaced small), read]

end Coffer.Text
