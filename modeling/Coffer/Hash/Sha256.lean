import Coffer.Bytes
/-!
# The digest SHA-256

A message is padded to whole blocks of 64 bytes and every block is mixed into a state of eight
32-bit words. The state can be stopped between blocks, which keyed digests use to mix their key in
once.
-/

namespace Coffer.Sha256

def constants : Array UInt32 := #[
  0x428a2f98, 0x71374491, 0xb5c0fbcf, 0xe9b5dba5, 0x3956c25b, 0x59f111f1, 0x923f82a4, 0xab1c5ed5,
  0xd807aa98, 0x12835b01, 0x243185be, 0x550c7dc3, 0x72be5d74, 0x80deb1fe, 0x9bdc06a7, 0xc19bf174,
  0xe49b69c1, 0xefbe4786, 0x0fc19dc6, 0x240ca1cc, 0x2de92c6f, 0x4a7484aa, 0x5cb0a9dc, 0x76f988da,
  0x983e5152, 0xa831c66d, 0xb00327c8, 0xbf597fc7, 0xc6e00bf3, 0xd5a79147, 0x06ca6351, 0x14292967,
  0x27b70a85, 0x2e1b2138, 0x4d2c6dfc, 0x53380d13, 0x650a7354, 0x766a0abb, 0x81c2c92e, 0x92722c85,
  0xa2bfe8a1, 0xa81a664b, 0xc24b8b70, 0xc76c51a3, 0xd192e819, 0xd6990624, 0xf40e3585, 0x106aa070,
  0x19a4c116, 0x1e376c08, 0x2748774c, 0x34b0bcb5, 0x391c0cb3, 0x4ed8aa4a, 0x5b9cca4f, 0x682e6ff3,
  0x748f82ee, 0x78a5636f, 0x84c87814, 0x8cc70208, 0x90befffa, 0xa4506ceb, 0xbef9a3f7, 0xc67178f2]

/-- The eight words that a digest is computed in. -/
structure State where
  (a b c d e f g h : UInt32)
  deriving DecidableEq

/-- The sixteen schedule words that the next rounds take, the next one first. -/
structure Window where
  (w0 w1 w2 w3 w4 w5 w6 w7 w8 w9 w10 w11 w12 w13 w14 w15 : UInt32)

/-- Rotation to the right. -/
@[inline] def rotate (word amount : UInt32) : UInt32 :=
  (word >>> amount) ||| (word <<< (32 - amount))

def initial : State where
  a := 0x6a09e667
  b := 0xbb67ae85
  c := 0x3c6ef372
  d := 0xa54ff53a
  e := 0x510e527f
  f := 0x9b05688c
  g := 0x1f83d9ab
  h := 0x5be0cd19

/-- Drops the word of the round that is done and appends the word sixteen rounds after it. -/
def Window.advance : Window → Window
  | ⟨w0, w1, w2, w3, w4, w5, w6, w7, w8, w9, w10, w11, w12, w13, w14, w15⟩ =>
    let early := rotate w1 7 ^^^ rotate w1 18 ^^^ (w1 >>> 3)
    let late := rotate w14 17 ^^^ rotate w14 19 ^^^ (w14 >>> 10)
    ⟨w1, w2, w3, w4, w5, w6, w7, w8, w9, w10, w11, w12, w13, w14, w15, late + w9 + early + w0⟩

/-- One round with a schedule word and a round constant already added up. -/
def State.round (word : UInt32) : State → State
  | ⟨a, b, c, d, e, f, g, h⟩ =>
    let choice := (e &&& f) ^^^ (~~~e &&& g)
    let first := h + (rotate e 6 ^^^ rotate e 11 ^^^ rotate e 25) + choice + word
    let majority := (a &&& b) ^^^ (a &&& c) ^^^ (b &&& c)
    let second := (rotate a 2 ^^^ rotate a 13 ^^^ rotate a 22) + majority
    ⟨first + second, a, b, c, d + first, e, f, g⟩

def rounds : (count : Nat) → State → Window → State
  | 0, state, _ => state
  | count + 1, state, window =>
    rounds count (state.round (constants.getD (63 - count) 0 + window.w0)) window.advance

def State.add (left right : State) : State :=
  ⟨left.a + right.a, left.b + right.b, left.c + right.c, left.d + right.d,
    left.e + right.e, left.f + right.f, left.g + right.g, left.h + right.h⟩

/-- The words of a byte string, most significant byte first; a part of a word at the end is
dropped. -/
def words : Bytes → List UInt32
  | b0 :: b1 :: b2 :: b3 :: rest =>
    (b0.toUInt32 <<< 24 ||| b1.toUInt32 <<< 16 ||| b2.toUInt32 <<< 8 ||| b3.toUInt32) ::
      words rest
  | _ => []

/-- Mixes whole blocks into a state; a part of a block at the end is dropped. -/
def State.absorbWords (state : State) : List UInt32 → State
  | w0 :: w1 :: w2 :: w3 :: w4 :: w5 :: w6 :: w7 :: w8 :: w9 :: w10 :: w11 :: w12 ::
      w13 :: w14 :: w15 :: rest =>
    (state.add (rounds 64 state
      ⟨w0, w1, w2, w3, w4, w5, w6, w7, w8, w9, w10, w11, w12, w13, w14, w15⟩)).absorbWords rest
  | _ => state

def State.absorb (state : State) (bytes : Bytes) : State := state.absorbWords (words bytes)

def wordBytes (word : UInt32) : Bytes :=
  [(word >>> 24).toUInt8, (word >>> 16).toUInt8, (word >>> 8).toUInt8, word.toUInt8]

def State.bytes (state : State) : Bytes :=
  wordBytes state.a ++ wordBytes state.b ++ wordBytes state.c ++ wordBytes state.d ++
  wordBytes state.e ++ wordBytes state.f ++ wordBytes state.g ++ wordBytes state.h

/-- What follows a message of `length` bytes: a one bit, zeros up to a whole block, and the length
in bits. -/
def padding (length : Nat) : Bytes :=
  0x80 :: List.replicate ((127 - 8 - length % 64) % 64) 0 ++ Bytes.ofNat 8 (8 * length)

/-- The digest of a message of which `consumed` bytes, whole blocks, are mixed into the state
already. -/
def State.finish (state : State) (consumed : Nat) (rest : Bytes) : Bytes :=
  (state.absorb (rest ++ padding (consumed + rest.length))).bytes

def digest (message : Bytes) : Bytes := initial.finish 0 message

@[simp] theorem length_digest (message : Bytes) : (digest message).length = 32 := rfl

end Coffer.Sha256
