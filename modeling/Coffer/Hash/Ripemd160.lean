import Coffer.Bytes
/-!
# The digest RIPEMD-160

Two lines of eighty steps run over the same block, and their results are added crosswise to the
state.
-/

namespace Coffer.Ripemd160

structure State where
  (a b c d e : UInt32)
  deriving DecidableEq

def initial : State := ⟨0x67452301, 0xefcdab89, 0x98badcfe, 0x10325476, 0xc3d2e1f0⟩

/-- The steps of the left line: which word of the block is taken, and how far the sum is rotated. -/
def leftSteps : List (Nat × UInt32) := [
  (0, 11), (1, 14), (2, 15), (3, 12), (4, 5), (5, 8), (6, 7), (7, 9),
  (8, 11), (9, 13), (10, 14), (11, 15), (12, 6), (13, 7), (14, 9), (15, 8),
  (7, 7), (4, 6), (13, 8), (1, 13), (10, 11), (6, 9), (15, 7), (3, 15),
  (12, 7), (0, 12), (9, 15), (5, 9), (2, 11), (14, 7), (11, 13), (8, 12),
  (3, 11), (10, 13), (14, 6), (4, 7), (9, 14), (15, 9), (8, 13), (1, 15),
  (2, 14), (7, 8), (0, 13), (6, 6), (13, 5), (11, 12), (5, 7), (12, 5),
  (1, 11), (9, 12), (11, 14), (10, 15), (0, 14), (8, 15), (12, 9), (4, 8),
  (13, 9), (3, 14), (7, 5), (15, 6), (14, 8), (5, 6), (6, 5), (2, 12),
  (4, 9), (0, 15), (5, 5), (9, 11), (7, 6), (12, 8), (2, 13), (10, 12),
  (14, 5), (1, 12), (3, 13), (8, 14), (11, 11), (6, 8), (15, 5), (13, 6)]

def rightSteps : List (Nat × UInt32) := [
  (5, 8), (14, 9), (7, 9), (0, 11), (9, 13), (2, 15), (11, 15), (4, 5),
  (13, 7), (6, 7), (15, 8), (8, 11), (1, 14), (10, 14), (3, 12), (12, 6),
  (6, 9), (11, 13), (3, 15), (7, 7), (0, 12), (13, 8), (5, 9), (10, 11),
  (14, 7), (15, 7), (8, 12), (12, 7), (4, 6), (9, 15), (1, 13), (2, 11),
  (15, 9), (5, 7), (1, 15), (3, 11), (7, 8), (14, 6), (6, 6), (9, 14),
  (11, 12), (8, 13), (12, 5), (2, 14), (10, 13), (0, 13), (4, 7), (13, 5),
  (8, 15), (6, 5), (4, 8), (1, 11), (3, 14), (11, 14), (15, 6), (0, 14),
  (5, 6), (12, 9), (2, 12), (13, 9), (9, 12), (7, 5), (10, 15), (14, 8),
  (12, 8), (15, 5), (10, 12), (4, 9), (1, 12), (5, 5), (8, 14), (7, 6),
  (6, 8), (2, 13), (13, 6), (14, 5), (0, 15), (3, 13), (9, 11), (11, 11)]

def rotate (word amount : UInt32) : UInt32 := (word <<< amount) ||| (word >>> (32 - amount))

def combine (round : Nat) (x y z : UInt32) : UInt32 :=
  match round with
  | 0 => x ^^^ y ^^^ z
  | 1 => (x &&& y) ||| (~~~x &&& z)
  | 2 => (x ||| ~~~y) ^^^ z
  | 3 => (x &&& z) ||| (y &&& ~~~z)
  | _ => x ^^^ (y ||| ~~~z)

def leftConstants : Array UInt32 := #[0, 0x5a827999, 0x6ed9eba1, 0x8f1bbcdc, 0xa953fd4e]

def rightConstants : Array UInt32 := #[0x50a28be6, 0x5c4dd124, 0x6d703ef3, 0x7a6d76e9, 0]

def State.step (line : State) (mixed word constant rotation : UInt32) : State :=
  ⟨line.e, rotate (line.a + mixed + word + constant) rotation + line.e, line.b,
    rotate line.c 10, line.d⟩

/-- The line after all steps that are left, of which the next one has number `index`. -/
def runLine (choose : Nat → Nat) (constants : Array UInt32) (block : Array UInt32) (line : State)
    (index : Nat) : List (Nat × UInt32) → State
  | [] => line
  | (place, rotation) :: later =>
    let round := index / 16
    runLine choose constants block
      (line.step (combine (choose round) line.b line.c line.d) (block.getD place 0)
        (constants.getD round 0) rotation)
      (index + 1) later

def State.absorbBlock (state : State) (block : Array UInt32) : State :=
  let left := runLine id leftConstants block state 0 leftSteps
  let right := runLine (4 - ·) rightConstants block state 0 rightSteps
  ⟨state.b + left.c + right.d, state.c + left.d + right.e, state.d + left.e + right.a,
    state.e + left.a + right.b, state.a + left.b + right.c⟩

/-- The words of a byte string, least significant byte first; a part of a word at the end is
dropped. -/
def words : Bytes → List UInt32
  | b0 :: b1 :: b2 :: b3 :: rest =>
    (b0.toUInt32 ||| b1.toUInt32 <<< 8 ||| b2.toUInt32 <<< 16 ||| b3.toUInt32 <<< 24) :: words rest
  | _ => []

/-- Mixes whole blocks into a state; a part of a block at the end is dropped. -/
def State.absorbWords (state : State) : List UInt32 → State
  | w0 :: w1 :: w2 :: w3 :: w4 :: w5 :: w6 :: w7 :: w8 :: w9 :: w10 :: w11 :: w12 ::
      w13 :: w14 :: w15 :: rest =>
    (state.absorbBlock
      #[w0, w1, w2, w3, w4, w5, w6, w7, w8, w9, w10, w11, w12, w13, w14, w15]).absorbWords rest
  | _ => state

def wordBytes (word : UInt32) : Bytes :=
  [word.toUInt8, (word >>> 8).toUInt8, (word >>> 16).toUInt8, (word >>> 24).toUInt8]

/-- What follows a message of `length` bytes: a one bit, zeros up to a whole block, and the length
in bits. -/
def padding (length : Nat) : Bytes :=
  0x80 :: List.replicate ((119 - length % 64) % 64) 0 ++ (Bytes.ofNat 8 (8 * length)).reverse

def digest (message : Bytes) : Bytes :=
  let last := initial.absorbWords (words (message ++ padding message.length))
  wordBytes last.a ++ wordBytes last.b ++ wordBytes last.c ++ wordBytes last.d ++ wordBytes last.e

@[simp] theorem length_digest (message : Bytes) : (digest message).length = 20 := rfl

end Coffer.Ripemd160
