import Coffer.Proofs.Phrase
import Coffer.Proofs.Text.Respelling
/-!
# Phrases and entropy correspond

Entropy of an admissible length has one phrase, which restores it however it is typed, and a text
restores entropy only if it is typed for the phrase of that entropy: its words in normal form are
the words that the entropy is written in.
-/

namespace Coffer.Phrase

variable {entropy : Bytes} {phrase text : String}

theorem numbersFrom_eq_ok {position : Nat} {words : List (List Char)} {numbers : List Nat}
    (read : numbersFrom position words = .ok numbers) :
    words = numbers.map (fun number => (wordList.getD number "").toList) ∧
      ∀ number ∈ numbers, number < 2048 := by
  induction words generalizing position numbers with
  | nil =>
    cases read
    exact ⟨rfl, fun number isIn => nomatch isIn⟩
  | cons word later ih =>
    rw [numbersFrom] at read
    split at read
    · cases read
    · rename_i number isNumber
      split at read
      · rename_i others readLater
        cases read
        obtain ⟨same, inRange⟩ := ih readLater
        have isWord := List.of_findIdx?_eq_some isNumber
        cases found : wordList[number]? with
        | none =>
          rw [found] at isWord
          cases isWord
        | some listed =>
          rw [found] at isWord
          have below := (List.getElem?_eq_some_iff.mp found).1
          rw [length_wordList] at below
          have own : word = (wordList.getD number "").toList := by
            rw [List.getD_eq_getElem?_getD, found, Option.getD_some, beq_iff_eq.mp isWord,
              String.toList_ofList]
          refine ⟨by rw [List.map_cons, ← own, ← same], fun other isIn => ?_⟩
          rcases List.mem_cons.mp isIn with rfl | isLater
          · exact below
          · exact inRange other isLater
      · cases read

theorem groups_flatMap_bitsOf (size : Nat) (numbers : List Nat) :
    groups size numbers.length (numbers.flatMap (bitsOf size)) = numbers.map (bitsOf size) := by
  induction numbers with
  | nil => rfl
  | cons number later ih =>
    rw [List.length_cons, groups, List.flatMap_cons, List.take_left' (length_bitsOf _ _),
      List.drop_left' (length_bitsOf _ _), ih, List.map_cons]

theorem length_flatMap_bitsOf (size : Nat) (numbers : List Nat) :
    (numbers.flatMap (bitsOf size)).length = size * numbers.length := by
  induction numbers with
  | nil => rfl
  | cons number later ih =>
    rw [List.flatMap_cons, List.length_append, length_bitsOf, ih, List.length_cons,
      Nat.mul_succ, Nat.add_comm]

theorem byteBits_groups {count : Nat} {bits : List Bool} (enough : 8 * count ≤ bits.length) :
    byteBits ((groups 8 count bits).map fun group => UInt8.ofNat (ofBits group)) =
      bits.take (8 * count) := by
  have each : ∀ group ∈ groups 8 count bits,
      bitsOf 8 (UInt8.ofNat (ofBits group)).toNat = group := by
    intro group isIn
    have size := length_of_mem_groups enough isIn
    have below := ofBits_lt group
    have read := bitsOf_ofBits group
    rw [size] at below read
    rw [UInt8.toNat_ofNat_of_lt' below, read]
  rw [byteBits, List.flatMap_map, List.flatMap_def, List.map_congr_left each, List.map_id',
    flatten_groups]

/-- What is read from a text is the numbers of its words, and these are the numbers that the entropy
is written in. -/
theorem numbersOf_of_toEntropy (read : toEntropy text = .ok entropy) :
    normalize text = (numbersOf entropy).map fun number => (wordList.getD number "").toList := by
  have isLength := isEntropyLength_of_toEntropy read
  simp only [toEntropy] at read
  split at read
  · cases read
  · rename_i admissible
    split at read
    · cases read
    · rename_i numbers isRead
      obtain ⟨same, inRange⟩ := numbersFrom_eq_ok isRead
      have count : (normalize text).length = numbers.length := by rw [same, List.length_map]
      rw [count] at read admissible
      split at read
      · rename_i closed
        cases read
        have total := length_flatMap_bitsOf 11 numbers
        have enough : 8 * (numbers.length / 3 * 4) ≤ (numbers.flatMap (bitsOf 11)).length := by
          omega
        have isBits : bitsFor ((groups 8 (numbers.length / 3 * 4) (numbers.flatMap (bitsOf 11))).map
            fun group => UInt8.ofNat (ofBits group)) = numbers.flatMap (bitsOf 11) := by
          rw [bitsFor, byteBits_groups enough, ← closed, List.take_append_drop]
        have words : 3 * (numbers.length / 3 * 4 / 4) = numbers.length := by omega
        have each : ∀ number ∈ numbers, ofBits (bitsOf 11 number) = number :=
          fun number isIn => ofBits_bitsOf (inRange number isIn)
        have isNumbers : (numbers.map (bitsOf 11)).map ofBits = numbers :=
          List.map_map.trans ((List.map_congr_left each).trans (List.map_id' numbers))
        rw [numbersOf, isBits, List.length_map, length_groups, words, groups_flatMap_bitsOf,
          isNumbers, same]
      · cases read

/-- A text in the form that is looked up, as one text. -/
def normalForm (text : String) : String := String.ofList (Text.spaced (normalize text))

/-- The phrase of entropy is the normal form of every text that the entropy is read from. -/
theorem ofEntropy_of_toEntropy (read : toEntropy text = .ok entropy) :
    ofEntropy entropy = .ok (normalForm text) := by
  have isLength := isEntropyLength_of_toEntropy read
  rw [ofEntropy, if_pos isLength, wordsOf_eq isLength, normalForm, numbersOf_of_toEntropy read]
  refine congrArg Except.ok (String.toList_injective ?_)
  rw [String.toList_intercalate, List.map_map]
  exact String.toList_ofList.symm

theorem spaced_of_ofEntropy (spelled : ofEntropy entropy = .ok phrase) :
    ∃ parts, phrase.toList = Text.spaced parts ∧
      ∀ word ∈ parts, word ≠ [] ∧ ∀ c ∈ word, Text.isSmall c = true := by
  unfold ofEntropy at spelled
  split at spelled
  · rename_i isLength
    cases spelled
    refine ⟨(wordsOf entropy).map String.toList, String.toList_intercalate, fun word isIn => ?_⟩
    rw [wordsOf_eq isLength, List.map_map, List.mem_map] at isIn
    obtain ⟨number, isNumber, rfl⟩ := isIn
    exact (word_of_number (numbersOf_lt isLength number isNumber)).2
  · cases spelled

theorem toEntropy_of_respells (spelled : ofEntropy entropy = .ok phrase)
    (respells : Text.Respells phrase.toList text.toList) : toEntropy text = .ok entropy := by
  obtain ⟨parts, written, solid⟩ := spaced_of_ofEntropy spelled
  rw [written] at respells
  have same : normalize text = normalize phrase := by
    rw [normalize, normalize, Text.words_of_respells solid respells, written,
      Text.words_of_respells solid (Text.respells_self _)]
  have read := toEntropy_ofEntropy spelled
  rw [toEntropy] at read ⊢
  rw [same, read]

theorem isEntropyLength_iff (length : Nat) : isEntropyLength length = true ↔
    length ∈ [16, 20, 24, 28, 32] := by
  simp only [isEntropyLength, Bool.and_eq_true, beq_iff_eq, decide_eq_true_eq, List.mem_cons,
    List.not_mem_nil, or_false]
  omega

theorem reveal_eq_ok : reveal entropy = .ok phrase ↔ ofEntropy entropy = .ok phrase := by
  rw [reveal]
  cases ofEntropy entropy with
  | ok spelled => simp
  | error fault => simp

theorem restore_eq_ok : restore text = .ok entropy ↔ toEntropy text = .ok entropy := by
  rw [restore]
  cases toEntropy text with
  | ok read => simp
  | error fault => simp

/-- Phrases and entropy correspond one to one. Entropy of 16, 20, 24, 28 or 32 bytes has a phrase,
and whatever is typed for this phrase restores the entropy. Any text that restores entropy restores
such entropy, and is the phrase of it in normal form. Entropy of another length has neither a phrase
nor a seed. -/
theorem phrases_and_entropy_correspond :
    (∀ entropy : Bytes, entropy.length ∈ [16, 20, 24, 28, 32] →
      ∃ phrase, reveal entropy = .ok phrase ∧
      ∀ text : String, Text.Respells phrase.toList text.toList → restore text = .ok entropy) ∧
    (∀ (text : String) (entropy : Bytes), restore text = .ok entropy →
      entropy.length ∈ [16, 20, 24, 28, 32] ∧ reveal entropy = .ok (normalForm text)) ∧
    ∀ entropy : Bytes, entropy.length ∉ [16, 20, 24, 28, 32] →
      reveal entropy = .error (.invalidMnemonic (Fault.bitCount (8 * entropy.length)).message) ∧
      seedOf entropy = .error (.invalidSeed (Fault.bitCount (8 * entropy.length)).message) := by
  refine ⟨fun entropy isLength => ?_, fun text entropy restored => ?_, fun entropy isOther => ?_⟩
  · have spelled : ofEntropy entropy = .ok _ := if_pos ((isEntropyLength_iff _).mpr isLength)
    exact ⟨_, reveal_eq_ok.mpr spelled, fun text respells =>
      restore_eq_ok.mpr (toEntropy_of_respells spelled respells)⟩
  · have read := restore_eq_ok.mp restored
    exact ⟨(isEntropyLength_iff _).mp (isEntropyLength_of_toEntropy read),
      reveal_eq_ok.mpr (ofEntropy_of_toEntropy read)⟩
  · have refused : ofEntropy entropy = .error (.bitCount (8 * entropy.length)) :=
      if_neg fun isLength => isOther ((isEntropyLength_iff _).mp isLength)
    exact ⟨by rw [reveal, refused], by rw [seedOf, seed, refused]⟩

/-- A phrase typed with capitals and wide spaces restores sixteen zeros, and in normal form it is
their phrase again. -/
theorem phrases_and_entropy_correspond_in_capitals :
    let later :=
      "abandon abandon abandon abandon abandon abandon abandon abandon abandon abandon about"
    Text.Respells ("abandon " ++ later).toList ("\u2003ABANDON\t\u3000" ++ later ++ "\n").toList ∧
      restore ("\u2003ABANDON\t\u3000" ++ later ++ "\n") = .ok (List.replicate 16 0) ∧
      reveal (List.replicate 16 0) = .ok (normalForm ("\u2003ABANDON\t\u3000" ++ later ++ "\n")) ∧
      (∃ cause, reveal (List.replicate 17 0) = .error cause) ∧
        ∃ cause, seedOf (List.replicate 17 0) = .error cause := by
  intro later
  obtain ⟨spelled, read, refused⟩ := phrases_and_entropy_correspond
  obtain ⟨phrase, revealed, restores⟩ := spelled (List.replicate 16 0) (by decide)
  have isPhrase : phrase = "abandon " ++ later := by
    have written : ofEntropy (List.replicate 16 0) =
      .ok (" ".intercalate (wordsOf (List.replicate 16 0))) := rfl
    rw [Except.ok.inj ((reveal_eq_ok.mp revealed).symm.trans written)]
    decide +kernel
  subst isPhrase
  have rest : Text.Loosens later.toList (later.toList ++ ['\n']) :=
    Text.loosens_append _ (List.all_eq_true.mp rfl)
  have gapped : Text.Loosens (' ' :: later.toList) (['\t', '\u3000'] ++ (later.toList ++ ['\n'])) :=
    .space (by decide) (List.all_eq_true.mp rfl) rest
  have respells : Text.Respells ("abandon " ++ later).toList ("\u2003ABANDON\t\u3000" ++ later ++
      "\n").toList := by
    have typed : ("\u2003ABANDON\t\u3000" ++ later ++ "\n").toList =
        ['\u2003'] ++ ("ABANDON".toList ++ (['\t', '\u3000'] ++ (later.toList ++ ['\n']))) := by
          decide +kernel
    have written : ("abandon " ++ later).toList = "abandon".toList ++ ' ' :: later.toList := by
      decide +kernel
    rw [typed, written]
    exact ⟨_, _, List.all_eq_true.mp rfl, gapped.word (by decide +kernel), rfl⟩
  have restored := restores _ respells
  obtain ⟨noPhrase, noSeed⟩ := refused (List.replicate 17 0) (by decide)
  exact ⟨respells, restored, (read _ _ restored).2, ⟨_, noPhrase⟩, ⟨_, noSeed⟩⟩

end Coffer.Phrase
