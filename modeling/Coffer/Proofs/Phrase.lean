import Coffer.Phrase
import Coffer.Proofs.Bytes
import Coffer.Proofs.Text
/-!
# Backup phrases can be read

Groups of bits are numbers and back, the words are on the list at their numbers only, and they are
small letters, so that reading a phrase restores the entropy that it was made of.
-/

namespace Coffer.Phrase

/-! ## Bits -/

@[simp] theorem length_bitsOf (width value : Nat) : (bitsOf width value).length = width := by
  induction width with
  | zero => rfl
  | succ width ih => rw [bitsOf, List.length_cons, ih]

theorem ofBits_cons (bit : Bool) (bits : List Bool) :
    ofBits (bit :: bits) = bit.toNat <<< bits.length + ofBits bits := by
  have shifted (bits : List Bool) (value : Nat) :
      bits.foldl (fun value bit => 2 * value + bit.toNat) value = 2 ^ bits.length * value +
        ofBits bits := by
    induction bits generalizing value with
    | nil => simp [ofBits]
    | cons bit bits ih =>
      rw [ofBits, List.foldl_cons, List.foldl_cons, ih, ih, List.length_cons, Nat.pow_succ,
        Nat.mul_add, Nat.mul_zero, Nat.zero_add, Nat.mul_assoc, Nat.add_assoc]
  rw [ofBits, List.foldl_cons, shifted, Nat.mul_zero, Nat.zero_add, Nat.shiftLeft_eq, Nat.mul_comm]

theorem ofBits_lt (bits : List Bool) : ofBits bits < 1 <<< bits.length := by
  induction bits with
  | nil => decide
  | cons bit bits ih =>
    rw [ofBits_cons, List.length_cons, Nat.shiftLeft_succ]
    cases bit <;> simp only [Bool.toNat_false, Bool.toNat_true, Nat.zero_shiftLeft] <;> omega

theorem bitsOf_congr {width value other : Nat}
    (same : ∀ place < width, value.testBit place = other.testBit place) :
    bitsOf width value = bitsOf width other := by
  induction width with
  | zero => rfl
  | succ width ih =>
    rw [bitsOf, bitsOf, same width (Nat.lt_succ_self width), ih fun place below =>
      same place (Nat.lt_succ_of_lt below)]

theorem bitsOf_ofBits (bits : List Bool) : bitsOf bits.length (ofBits bits) = bits := by
  induction bits with
  | nil => rfl
  | cons bit bits ih =>
    have below := ofBits_lt bits
    rw [Nat.one_shiftLeft] at below
    have places (place : Nat) := Nat.testBit_two_pow_mul_add bit.toNat below place
    rw [List.length_cons, bitsOf, ofBits_cons, Nat.shiftLeft_eq, Nat.mul_comm, places,
      if_neg (Nat.lt_irrefl _), Nat.sub_self]
    congr 1
    · cases bit <;> rfl
    · exact Eq.trans (bitsOf_congr fun place below => (places place).trans (if_pos below)) ih

/-- The number that is made of the digits of a number is the number, where they are enough for
it. -/
theorem ofBits_bitsOf {width value : Nat} (inRange : value < 1 <<< width) :
    ofBits (bitsOf width value) = value := by
  induction width generalizing value with
  | zero =>
    rw [Nat.shiftLeft_zero, Nat.lt_one_iff] at inRange
    rw [inRange]
    rfl
  | succ width ih =>
    rw [Nat.one_shiftLeft] at inRange
    have rest : bitsOf width value = bitsOf width (value % 2 ^ width) := by
      refine bitsOf_congr fun place below => ?_
      simp [Nat.testBit_mod_two_pow, below]
    have first : (value.testBit width).toNat = value / 2 ^ width := by
      have small : value / 2 ^ width < 2 := Nat.div_lt_of_lt_mul (by rwa [Nat.pow_succ] at inRange)
      rw [Nat.testBit_eq_decide_div_mod_eq, Nat.mod_eq_of_lt small]
      rcases Nat.le_one_iff_eq_zero_or_eq_one.mp (Nat.le_of_lt_succ small) with zero | one
      · simp [zero]
      · simp [one]
    have below : value % 2 ^ width < 1 <<< width := by
      rw [Nat.one_shiftLeft]
      exact Nat.mod_lt _ (Nat.two_pow_pos width)
    rw [bitsOf, ofBits_cons, length_bitsOf, rest, ih below, first, Nat.shiftLeft_eq,
      Nat.div_add_mod']

/-! ## Groups -/

@[simp] theorem length_groups (size count : Nat) (bits : List Bool) :
    (groups size count bits).length = count := by
  induction count generalizing bits with
  | zero => rfl
  | succ count ih => rw [groups, List.length_cons, ih]

/-- Groups of bits, where there are enough of them, are of one size and make up the bits. -/
theorem length_of_mem_groups {size count : Nat} {bits group : List Bool}
    (enough : size * count ≤ bits.length) (isIn : group ∈ groups size count bits) :
    group.length = size := by
  induction count generalizing bits with
  | zero => cases isIn
  | succ count ih =>
    rw [Nat.mul_succ] at enough
    rcases List.mem_cons.mp isIn with rfl | isLater
    · rw [List.length_take]
      omega
    · refine ih ?_ isLater
      rw [List.length_drop]
      omega

theorem flatten_groups (size count : Nat) (bits : List Bool) :
    (groups size count bits).flatten = bits.take (size * count) := by
  induction count generalizing bits with
  | zero => simp [groups]
  | succ count ih =>
    rw [groups, List.flatten_cons, ih, Nat.mul_succ, Nat.add_comm (size * count) size,
      List.take_add]

theorem groups_byteBits (bytes : Bytes) (rest : List Bool) :
    groups 8 bytes.length (byteBits bytes ++ rest) = bytes.map fun byte => bitsOf 8 byte.toNat := by
  induction bytes with
  | nil => rfl
  | cons byte later ih =>
    have split : byteBits (byte :: later) ++ rest = bitsOf 8 byte.toNat ++
        (byteBits later ++ rest) := by
      simp [byteBits]
    rw [List.length_cons, groups, split, List.take_left' (length_bitsOf _ _),
      List.drop_left' (length_bitsOf _ _), ih]
    rfl

theorem length_byteBits (bytes : Bytes) : (byteBits bytes).length = 8 * bytes.length := by
  induction bytes with
  | nil => rfl
  | cons byte later ih =>
    rw [byteBits, List.flatMap_cons, List.length_append, length_bitsOf, List.length_cons,
      Nat.mul_succ, Nat.add_comm]
    exact congrArg (· + 8) ih

/-! ## Words -/

def firstLetters (word : String) : Nat := Bytes.toNat ((Bytes.ofText word ++ [0, 0, 0, 0]).take 4)

/-- The words are of small letters, and each comes by its first four letters after the number and
the words before it. -/
def ascends (before : Nat) : List String → Bool
  | [] => true
  | word :: later =>
    let letters := Bytes.ofText word
    !letters.isEmpty && letters.all (fun byte => 0x61 ≤ byte && byte ≤ 0x7a) &&
      decide (before < firstLetters word) && ascends (firstLetters word) later

set_option maxRecDepth 10000 in
theorem wordList_ascends : ascends 0 wordList = true := by decide +kernel

theorem length_wordList : wordList.length = 2048 := by decide +kernel

theorem small_of_bytes {word : String} (small : ∀ byte ∈ Bytes.ofText word, 0x61 ≤ byte ∧
      byte ≤ 0x7a) :
    ∀ c ∈ word.toList, Text.isSmall c = true := by
  have ascii : Bytes.IsAscii (Bytes.ofText word) :=
    fun byte isIn => UInt8.lt_of_le_of_lt (small byte isIn).2 (by decide)
  have spelled : word = Bytes.asciiText (Bytes.ofText word) := by
    have same := congrArg Bytes.toText? (Bytes.ofText_asciiText ascii)
    rw [Bytes.toText?_ofText, Bytes.toText?_ofText] at same
    exact (Option.some.inj same).symm
  intro c isIn
  rw [spelled, Bytes.asciiText, String.toList_ofList, List.mem_map] at isIn
  obtain ⟨byte, isByte, rfl⟩ := isIn
  have each : ∀ byte : UInt8, byte < 0x7b → 0x61 ≤ byte →
      Text.isSmall (Char.ofNat byte.toNat) = true := by
    intro byte below
    apply Bytes.of_each_below byte below
    decide
  exact each byte (UInt8.lt_of_le_of_lt (small byte isByte).2 (by decide)) (small byte isByte).1

variable {before : Nat} {words : List String}

theorem lt_of_ascends (ascend : ascends before words = true) {word : String} (isIn : word ∈ words) :
    before < firstLetters word := by
  induction words generalizing before with
  | nil => cases isIn
  | cons first later ih =>
    simp only [ascends, Bool.and_eq_true, decide_eq_true_eq] at ascend
    obtain ⟨⟨_, below⟩, ascend⟩ := ascend
    rcases List.mem_cons.mp isIn with rfl | isLater
    · exact below
    · exact Nat.lt_trans below (ih ascend isLater)

theorem idxOf?_of_ascends (ascend : ascends before words = true) {number : Nat} {word : String}
    (isWord : words[number]? = some word) : words.idxOf? word = some number := by
  induction words generalizing before number with
  | nil => cases isWord
  | cons first later ih =>
    simp only [ascends, Bool.and_eq_true] at ascend
    rw [List.idxOf?_cons]
    cases number with
    | zero =>
      cases isWord
      simp
    | succ number =>
      have differs : first ≠ word := by
        rintro rfl
        exact Nat.lt_irrefl _ (lt_of_ascends ascend.2 (List.mem_of_getElem? isWord))
      simp [differs, ih ascend.2 isWord]

theorem small_of_ascends (ascend : ascends before words = true) {word : String}
    (isIn : word ∈ words) : word.toList ≠ [] ∧ ∀ c ∈ word.toList, Text.isSmall c = true := by
  induction words generalizing before with
  | nil => cases isIn
  | cons first later ih =>
    simp only [ascends, Bool.and_eq_true] at ascend
    obtain ⟨⟨⟨nonempty, small⟩, _⟩, ascend⟩ := ascend
    rcases List.mem_cons.mp isIn with rfl | isLater
    · refine ⟨?_, small_of_bytes fun byte isIn =>
        by simpa using List.all_eq_true.mp small byte isIn⟩
      intro empty
      rw [String.toList_eq_nil_iff.mp empty] at nonempty
      cases nonempty
    · exact ih ascend isLater

/-! ## Phrases -/

/-- The word of each number is on the list at that number only, and in small letters. -/
theorem word_of_number {number : Nat} (inRange : number < 2048) :
    wordList.idxOf? (wordList.getD number "") = some number ∧
      (wordList.getD number "").toList ≠ [] ∧
      ∀ c ∈ (wordList.getD number "").toList, Text.isSmall c = true := by
  have below : number < wordList.length := length_wordList ▸ inRange
  have isWord : wordList[number]? = some (wordList.getD number "") := by
    rw [List.getD_eq_getElem?_getD, List.getElem?_eq_getElem below]
    rfl
  exact ⟨idxOf?_of_ascends wordList_ascends isWord, small_of_ascends wordList_ascends
    (List.mem_of_getElem? isWord)⟩

/-- Small words with one space between them are already in the form that is looked up. -/
theorem normalize_intercalate {words : List String}
    (small : ∀ word ∈ words, word.toList ≠ [] ∧ ∀ c ∈ word.toList, Text.isSmall c = true) :
    normalize (" ".intercalate words) = words.map String.toList := by
  have solid : ∀ part ∈ words.map String.toList, part ≠ [] ∧
      ∀ c ∈ part, Text.isBlank c = false := by
    intro part isIn
    obtain ⟨word, isWord, rfl⟩ := List.mem_map.mp isIn
    exact ⟨(small word isWord).1, fun c isIn =>
      Text.isBlank_of_isSmall ((small word isWord).2 c isIn)⟩
  have plain : ∀ c ∈ Text.spaced (words.map String.toList), Text.isPlain c = true := by
    refine Text.plain_spaced fun part isIn => ?_
    obtain ⟨word, isWord, rfl⟩ := List.mem_map.mp isIn
    exact (small word isWord).2
  have written : (" ".intercalate words).toList = Text.spaced (words.map String.toList) :=
    String.toList_intercalate
  rw [normalize, written, Text.words_spaced solid, Text.lower_of_plain plain,
    Text.Compatibility.decompose_of_plain plain, Text.words_spaced solid]

theorem numbersFrom_words (position : Nat) {numbers : List Nat}
    (inRange : ∀ number ∈ numbers, number < 2048) :
    numbersFrom position (numbers.map fun number => (wordList.getD number "").toList) =
      .ok numbers := by
  induction numbers generalizing position with
  | nil => rfl
  | cons number later ih =>
    rw [List.map_cons, numbersFrom, String.ofList_toList,
      (word_of_number (inRange number List.mem_cons_self)).1]
    simp only [ih (position + 1) fun other isIn => inRange other (List.mem_cons_of_mem number isIn)]

/-! ## Reading a phrase -/

variable {entropy : Bytes} {phrase : String}

def bitsFor (entropy : Bytes) : List Bool := byteBits entropy ++ checkBits entropy

theorem length_checkBits (short : entropy.length ≤ 32) :
    (checkBits entropy).length = entropy.length / 4 := by
  rw [checkBits, List.length_take, length_byteBits, Sha256.length_digest]
  omega

theorem length_bitsFor (isLength : isEntropyLength entropy.length = true) :
    (bitsFor entropy).length = 11 * (3 * (entropy.length / 4)) := by
  simp only [isEntropyLength, Bool.and_eq_true, beq_iff_eq, decide_eq_true_eq] at isLength
  rw [bitsFor, List.length_append, length_byteBits, length_checkBits isLength.2]
  omega

def numbersOf (entropy : Bytes) : List Nat :=
  (groups 11 (3 * (entropy.length / 4)) (bitsFor entropy)).map ofBits

theorem wordsOf_eq (isLength : isEntropyLength entropy.length = true) :
    wordsOf entropy = (numbersOf entropy).map fun number => wordList.getD number "" := by
  have count : (bitsFor entropy).length / 11 = 3 * (entropy.length / 4) := by
    rw [length_bitsFor isLength, Nat.mul_div_cancel_left _ (by decide)]
  rw [numbersOf, ← count, List.map_map]
  rfl

theorem length_numbersOf (entropy : Bytes) :
    (numbersOf entropy).length = 3 * (entropy.length / 4) := by
  rw [numbersOf, List.length_map, length_groups]

theorem numbersOf_lt (isLength : isEntropyLength entropy.length = true) :
    ∀ number ∈ numbersOf entropy, number < 2048 := by
  intro number isIn
  obtain ⟨group, isGroup, rfl⟩ := List.mem_map.mp isIn
  have size := length_of_mem_groups (Nat.le_of_eq (length_bitsFor isLength).symm) isGroup
  have below := ofBits_lt group
  rw [size] at below
  exact below

theorem flatMap_numbersOf (isLength : isEntropyLength entropy.length = true) :
    (numbersOf entropy).flatMap (bitsOf 11) = bitsFor entropy := by
  have same : ∀ group ∈ groups 11 (3 * (entropy.length / 4)) (bitsFor entropy),
      bitsOf 11 (ofBits group) = group := by
    intro group isGroup
    have size := length_of_mem_groups (Nat.le_of_eq (length_bitsFor isLength).symm) isGroup
    have read := bitsOf_ofBits group
    rwa [size] at read
  have digits : ((groups 11 (3 * (entropy.length / 4)) (bitsFor entropy)).map fun group =>
      bitsOf 11 (ofBits group)) =
      groups 11 (3 * (entropy.length / 4)) (bitsFor entropy) :=
        (List.map_congr_left same).trans (List.map_id _)
  have sameDigits : (numbersOf entropy).map (bitsOf 11) = groups 11 (3 * (entropy.length / 4))
      (bitsFor entropy) :=
    List.map_map.trans digits
  rw [List.flatMap_def, sameDigits, flatten_groups, ← length_bitsFor isLength, List.take_length]

theorem toEntropy_ofEntropy (spelled : ofEntropy entropy = .ok phrase) :
    toEntropy phrase = .ok entropy := by
  unfold ofEntropy at spelled
  split at spelled
  · rename_i isLength
    cases spelled
    have inRange := numbersOf_lt isLength
    have read : normalize (" ".intercalate (wordsOf entropy)) =
        (numbersOf entropy).map fun number => (wordList.getD number "").toList := by
      rw [wordsOf_eq isLength, normalize_intercalate, List.map_map]
      · rfl
      · intro word isWord
        obtain ⟨number, isNumber, rfl⟩ := List.mem_map.mp isWord
        exact (word_of_number (inRange number isNumber)).2
    have restored : (groups 8 entropy.length (bitsFor entropy)).map (fun group =>
        UInt8.ofNat (ofBits group)) = entropy := by
      rw [bitsFor, groups_byteBits, List.map_map]
      refine Eq.trans (List.map_congr_left fun byte _ => ?_) (List.map_id _)
      exact (congrArg UInt8.ofNat (ofBits_bitsOf byte.toNat_lt)).trans UInt8.ofNat_toNat
    have closed : (bitsFor entropy).drop (8 * entropy.length) = checkBits entropy :=
      List.drop_left' (length_byteBits entropy)
    have length := isLength
    simp only [isEntropyLength, Bool.and_eq_true, beq_iff_eq, decide_eq_true_eq] at length
    have size : 3 * (entropy.length / 4) / 3 * 4 = entropy.length := by omega
    have admissible : ¬ (3 * (entropy.length / 4) % 3 ≠ 0 ∨ 3 * (entropy.length / 4) < 12 ∨
        24 < 3 * (entropy.length / 4)) := by omega
    simp only [toEntropy, read, List.length_map, length_numbersOf, if_neg admissible,
      numbersFrom_words 0 inRange]
    rw [flatMap_numbersOf isLength, size, restored, if_pos closed]
  · cases spelled

theorem restore_of_reveal (revealed : reveal entropy = .ok phrase) :
    restore phrase = .ok entropy := by
  unfold reveal at revealed
  split at revealed
  · rename_i spelled
    cases revealed
    rw [restore, toEntropy_ofEntropy spelled]
  · cases revealed

theorem isEntropyLength_of_toEntropy (read : toEntropy phrase = .ok entropy) :
    isEntropyLength entropy.length = true := by
  simp only [toEntropy] at read
  split at read
  · cases read
  · rename_i admissible
    split at read
    · cases read
    · split at read
      · cases read
        simp only [List.length_map, length_groups, isEntropyLength, Bool.and_eq_true, beq_iff_eq,
          decide_eq_true_eq]
        omega
      · cases read

theorem seedOf_of_restore (restored : restore phrase = .ok entropy) :
    ∃ seed, seedOf entropy = .ok seed := by
  unfold restore at restored
  split at restored
  · rename_i read
    cases restored
    simp only [seedOf, seed, ofEntropy, if_pos (isEntropyLength_of_toEntropy read)]
    exact ⟨_, rfl⟩
  · cases restored

end Coffer.Phrase
