import Coffer.Bytes.Hex
import Coffer.Error
import Coffer.Hash.Sha256
import Coffer.Phrase.Words
import Coffer.Stretch.Pbkdf2
import Coffer.Text.Blank
import Coffer.Text.Compatibility
import Coffer.Text.LowerCase
/-!
# Backup phrases

Entropy of 128 to 256 bits, a multiple of 32, followed by one bit of its digest for each 32 bits, is
written eleven bits a word. Reading a phrase collapses white space, ignores case and undoes
compatibility forms of letters; it checks the number of words first, then each word in order, then
the bits of the digest. The seed of a wallet is its stretched phrase.
-/

namespace Coffer.Phrase

/-- Why entropy has no phrase, or a phrase no entropy. -/
inductive Fault where
  | wordCount (count : Nat)
  /-- The word at the position, counted from zero, is not on the list. -/
  | unknownWord (position : Nat)
  | checksum
  /-- The number of bits is no multiple of 32 from 128 to 256. -/
  | bitCount (count : Nat)
  deriving DecidableEq, Repr

def Fault.message : Fault → String
  | .wordCount count =>
    s!"mnemonic has an invalid word count: {count}. Word count must be 12, 15, 18, 21, or 24"
  | .unknownWord position => s!"mnemonic contains an unknown word (word {position})"
  | .checksum => "the mnemonic has an invalid checksum"
  | .bitCount count =>
    s!"entropy was not between 128-256 bits or not a multiple of 32 bits: {count} bits"

/-- The binary digits of a number, `width` of them, most significant first. -/
def bitsOf : (width : Nat) → Nat → List Bool
  | 0, _ => []
  | width + 1, value => value.testBit width :: bitsOf width value

/-- The number with the given binary digits, most significant first. -/
def ofBits (bits : List Bool) : Nat := bits.foldl (fun value bit => 2 * value + bit.toNat) 0

def byteBits (bytes : Bytes) : List Bool := bytes.flatMap fun byte => bitsOf 8 byte.toNat

def groups (size : Nat) : (count : Nat) → List Bool → List (List Bool)
  | 0, _ => []
  | count + 1, bits => bits.take size :: groups size count (bits.drop size)

def checkBits (entropy : Bytes) : List Bool :=
  (byteBits (Sha256.digest entropy)).take (entropy.length / 4)

def isEntropyLength (length : Nat) : Bool := length % 4 == 0 && 16 ≤ length && length ≤ 32

def wordsOf (entropy : Bytes) : List String :=
  let bits := byteBits entropy ++ checkBits entropy
  (groups 11 (bits.length / 11) bits).map fun group => wordList.getD (ofBits group) ""

def ofEntropy (entropy : Bytes) : Except Fault String :=
  if isEntropyLength entropy.length then .ok (" ".intercalate (wordsOf entropy))
  else .error (.bitCount (8 * entropy.length))

/-- The numbers of words, the first of which has the given position in its phrase. -/
def numbersFrom (position : Nat) : List (List Char) → Except Fault (List Nat)
  | [] => .ok []
  | word :: later =>
    match wordList.idxOf? (String.ofList word) with
    | none => .error (.unknownWord position)
    | some number =>
      match numbersFrom (position + 1) later with
      | .ok numbers => .ok (number :: numbers)
      | .error fault => .error fault

/-- A phrase in the form that is looked up: words in lower case without compatibility forms. -/
def normalize (phrase : String) : List (List Char) :=
  Text.words (Text.Compatibility.decompose (Text.lower (Text.spaced (Text.words phrase.toList))))

def toEntropy (phrase : String) : Except Fault Bytes :=
  let words := normalize phrase
  let count := words.length
  if count % 3 ≠ 0 ∨ count < 12 ∨ 24 < count then .error (.wordCount count)
  else
    match numbersFrom 0 words with
    | .error fault => .error fault
    | .ok numbers =>
      let bits := numbers.flatMap (bitsOf 11)
      let size := count / 3 * 4
      let entropy := (groups 8 size bits).map fun group => UInt8.ofNat (ofBits group)
      if bits.drop (8 * size) = checkBits entropy then .ok entropy else .error .checksum

def seed (entropy : Bytes) : Except Fault Bytes :=
  match ofEntropy entropy with
  | .ok phrase => .ok (Pbkdf2.derive (Bytes.ofText phrase) (Bytes.ofText "mnemonic") 2048)
  | .error fault => .error fault

def reveal (entropy : Bytes) : Except DerivationError String :=
  match ofEntropy entropy with
  | .ok phrase => .ok phrase
  | .error fault => .error (.invalidMnemonic fault.message)

def restore (phrase : String) : Except DerivationError Bytes :=
  match toEntropy phrase with
  | .ok entropy => .ok entropy
  | .error fault => .error (.invalidMnemonic fault.message)

def seedOf (entropy : Bytes) : Except DerivationError Bytes :=
  match seed entropy with
  | .ok seed => .ok seed
  | .error fault => .error (.invalidSeed fault.message)

def seedOfHex (text : String) : Except DerivationError Bytes :=
  match Hex.decode text with
  | .ok entropy => seedOf entropy
  | .error fault => .error (.invalidSeed fault.message)

end Coffer.Phrase
