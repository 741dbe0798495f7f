import Coffer.Bytes
/-!
# The digest BLAKE2b

Without a key and with a digest of one to sixty-four bytes. A block of sixteen words is mixed into a
square of sixteen words, first along its columns and then along its diagonals, twelve times.
-/

namespace Coffer.Blake2b

/-- Four words that are mixed with each other. -/
structure Quad where
  (a b c d : UInt64)

/-- Sixteen words, of which four after each other are a row. -/
structure Square where
  (w0 w1 w2 w3 w4 w5 w6 w7 w8 w9 w10 w11 w12 w13 w14 w15 : UInt64)

/-- Rotation to the right. -/
@[inline] def rotate (word amount : UInt64) : UInt64 :=
  (word >>> amount) ||| (word <<< (64 - amount))

/-- Mixes every column of a square with one function and then every diagonal with another; the
functions are told the number of the column or diagonal. -/
@[inline] def Square.mix (column diagonal : Nat → Quad → Quad) (s : Square) : Square :=
  let c0 := column 0 ⟨s.w0, s.w4, s.w8, s.w12⟩
  let c1 := column 1 ⟨s.w1, s.w5, s.w9, s.w13⟩
  let c2 := column 2 ⟨s.w2, s.w6, s.w10, s.w14⟩
  let c3 := column 3 ⟨s.w3, s.w7, s.w11, s.w15⟩
  let d0 := diagonal 0 ⟨c0.a, c1.b, c2.c, c3.d⟩
  let d1 := diagonal 1 ⟨c1.a, c2.b, c3.c, c0.d⟩
  let d2 := diagonal 2 ⟨c2.a, c3.b, c0.c, c1.d⟩
  let d3 := diagonal 3 ⟨c3.a, c0.b, c1.c, c2.d⟩
  ⟨d0.a, d1.a, d2.a, d3.a, d3.b, d0.b, d1.b, d2.b, d2.c, d3.c, d0.c, d1.c, d1.d, d2.d, d3.d, d0.d⟩

structure Chain where
  (h0 h1 h2 h3 h4 h5 h6 h7 : UInt64)

/-- The words that the chain starts from and that fill the lower half of the square. -/
def initial : Chain where
  h0 := 0x6a09e667f3bcc908
  h1 := 0xbb67ae8584caa73b
  h2 := 0x3c6ef372fe94f82b
  h3 := 0xa54ff53a5f1d36f1
  h4 := 0x510e527fade682d1
  h5 := 0x9b05688c2b3e6c1f
  h6 := 0x1f83d9abfb41bd6b
  h7 := 0x5be0cd19137e2179

/-- For each of the twelve rounds, the order in which the words of the block are taken. -/
def schedule : List (List Nat) := [
  [0, 1, 2, 3, 4, 5, 6, 7, 8, 9, 10, 11, 12, 13, 14, 15],
  [14, 10, 4, 8, 9, 15, 13, 6, 1, 12, 0, 2, 11, 7, 5, 3],
  [11, 8, 12, 0, 5, 2, 15, 13, 10, 14, 3, 6, 7, 1, 9, 4],
  [7, 9, 3, 1, 13, 12, 11, 14, 2, 6, 5, 10, 4, 0, 15, 8],
  [9, 0, 5, 7, 2, 4, 10, 15, 14, 1, 11, 12, 6, 8, 3, 13],
  [2, 12, 6, 10, 0, 11, 8, 3, 4, 13, 7, 5, 15, 14, 1, 9],
  [12, 5, 1, 15, 14, 13, 4, 10, 0, 7, 6, 3, 9, 2, 8, 11],
  [13, 11, 7, 14, 12, 1, 3, 9, 5, 0, 15, 4, 8, 6, 2, 10],
  [6, 15, 14, 9, 11, 3, 0, 8, 12, 2, 13, 7, 1, 4, 10, 5],
  [10, 2, 8, 4, 7, 6, 1, 5, 15, 11, 9, 14, 3, 12, 13, 0],
  [0, 1, 2, 3, 4, 5, 6, 7, 8, 9, 10, 11, 12, 13, 14, 15],
  [14, 10, 4, 8, 9, 15, 13, 6, 1, 12, 0, 2, 11, 7, 5, 3]]

def Quad.mix (quad : Quad) (x y : UInt64) : Quad :=
  let a := quad.a + quad.b + x
  let d := rotate (quad.d ^^^ a) 32
  let c := quad.c + d
  let b := rotate (quad.b ^^^ c) 24
  let a := a + b + y
  let d := rotate (d ^^^ a) 16
  let c := c + d
  let b := rotate (b ^^^ c) 63
  ⟨a, b, c, d⟩

def Square.round (block : Array UInt64) (square : Square) (places : List Nat) : Square :=
  let words := (places.map (block.getD · 0)).toArray
  square.mix (fun i quad => quad.mix (words.getD (2 * i) 0) (words.getD (2 * i + 1) 0))
    (fun i quad => quad.mix (words.getD (2 * i + 8) 0) (words.getD (2 * i + 9) 0))

/-- Mixes a block into the chain; `total` counts the message bytes up to its end. -/
def Chain.absorb (chain : Chain) (block : Array UInt64) (total : Nat) (last : Bool) : Chain :=
  let start : Square := ⟨chain.h0, chain.h1, chain.h2, chain.h3, chain.h4, chain.h5,
    chain.h6, chain.h7, initial.h0, initial.h1, initial.h2, initial.h3,
    initial.h4 ^^^ UInt64.ofNat total, initial.h5 ^^^ UInt64.ofNat (total >>> 64), if last then
    ~~~initial.h6 else initial.h6, initial.h7⟩
  let s := schedule.foldl (Square.round block) start
  ⟨chain.h0 ^^^ s.w0 ^^^ s.w8, chain.h1 ^^^ s.w1 ^^^ s.w9, chain.h2 ^^^ s.w2 ^^^ s.w10,
    chain.h3 ^^^ s.w3 ^^^ s.w11, chain.h4 ^^^ s.w4 ^^^ s.w12, chain.h5 ^^^ s.w5 ^^^ s.w13,
    chain.h6 ^^^ s.w6 ^^^ s.w14, chain.h7 ^^^ s.w7 ^^^ s.w15⟩

/-- The words of a byte string, least significant byte first; a part of a word at the end is
dropped. -/
def words : Bytes → List UInt64
  | b0 :: b1 :: b2 :: b3 :: b4 :: b5 :: b6 :: b7 :: rest =>
    (b0.toUInt64 ||| b1.toUInt64 <<< 8 ||| b2.toUInt64 <<< 16 ||| b3.toUInt64 <<< 24 |||
      b4.toUInt64 <<< 32 ||| b5.toUInt64 <<< 40 ||| b6.toUInt64 <<< 48 ||| b7.toUInt64 <<< 56) ::
      words rest
  | _ => []

def wordBytes (word : UInt64) : Bytes :=
  [word.toUInt8, (word >>> 8).toUInt8, (word >>> 16).toUInt8, (word >>> 24).toUInt8,
    (word >>> 32).toUInt8, (word >>> 40).toUInt8, (word >>> 48).toUInt8, (word >>> 56).toUInt8]

/-- The chain after a whole message; the last block is filled with zeros and marked as last, and an
empty message has one block. -/
def Chain.absorbAll (chain : Chain) (total : Nat) (message : Bytes) : Chain :=
  if message.length ≤ 128 then
    let filled := message ++ List.replicate (128 - message.length) 0
    chain.absorb (words filled).toArray (total + message.length) true
  else
    (chain.absorb (words (message.take 128)).toArray (total + 128) false).absorbAll (total + 128)
      (message.drop 128)
termination_by message.length
decreasing_by simp; omega

def digest (size : Nat) (message : Bytes) : Bytes :=
  let start := { initial with h0 := initial.h0 ^^^ 0x01010000 ^^^ UInt64.ofNat size }
  let last := start.absorbAll 0 message
  (wordBytes last.h0 ++ wordBytes last.h1 ++ wordBytes last.h2 ++ wordBytes last.h3 ++
    wordBytes last.h4 ++ wordBytes last.h5 ++ wordBytes last.h6 ++ wordBytes last.h7).take size

end Coffer.Blake2b
