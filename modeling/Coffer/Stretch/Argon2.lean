import Coffer.Hash.Blake2b
/-!
# Stretching a password

Argon2id, version 1.3, with one lane of 64 blocks of one KiB and a 32-byte result. A pass fills
every block from the one before it and one further back; which one, follows from a counter in the
first half of the first pass and from the block before it afterwards.
-/

namespace Coffer.Argon2

open Blake2b (Quad Square rotate words wordBytes)

/-- Why a password is not stretched. -/
inductive Refusal where
  | timeTooSmall
  | saltTooShort
  deriving DecidableEq, Repr

def Refusal.message : Refusal → String
  | .timeTooSmall => "time cost is too small"
  | .saltTooShort => "salt is too short"

abbrev Block := Array UInt64

def blockCount : Nat := 64

/-- How many blocks a quarter of the memory has; within a quarter, references follow one rule. -/
def segmentLength : Nat := 16

/-- Sum of two words and twice the product of their lower halves. -/
@[inline] def spread (x y : UInt64) : UInt64 :=
  x + y + 2 * ((x &&& 0xffffffff) * (y &&& 0xffffffff))

def mixQuad (quad : Quad) : Quad :=
  let a := spread quad.a quad.b
  let d := rotate (quad.d ^^^ a) 32
  let c := spread quad.c d
  let b := rotate (quad.b ^^^ c) 24
  let a := spread a b
  let d := rotate (d ^^^ a) 16
  let c := spread c d
  let b := rotate (b ^^^ c) 63
  ⟨a, b, c, d⟩

/-- Mixes the sixteen words of a block at the given places with each other. -/
def permuteAt (block : Block) : List Nat → Block
  | [p0, p1, p2, p3, p4, p5, p6, p7, p8, p9, p10, p11, p12, p13, p14, p15] =>
    let word (place : Nat) : UInt64 := block.getD place 0
    let s := (Square.mk (word p0) (word p1) (word p2) (word p3) (word p4) (word p5)
      (word p6) (word p7) (word p8) (word p9) (word p10) (word p11) (word p12) (word p13) (word p14)
        (word p15)).mix (fun _ quad => mixQuad quad) (fun _ quad => mixQuad quad)
    (((((((((((((((block.setIfInBounds p0 s.w0).setIfInBounds p1 s.w1).setIfInBounds p2
      s.w2).setIfInBounds p3 s.w3).setIfInBounds p4 s.w4).setIfInBounds p5 s.w5).setIfInBounds p6
        s.w6).setIfInBounds
      p7 s.w7).setIfInBounds p8 s.w8).setIfInBounds p9 s.w9).setIfInBounds p10 s.w10).setIfInBounds
      p11 s.w11).setIfInBounds p12 s.w12).setIfInBounds p13 s.w13).setIfInBounds
      p14 s.w14).setIfInBounds p15 s.w15
  | _ => block

/-- The places of the eight rows of a block and then of its eight columns, which are two words
wide. -/
def lines : List (List Nat) :=
  (List.range 8).map (fun row => (List.range 16).map (16 * row + ·)) ++
  (List.range 8).map fun column => (List.range 16).map fun i => 16 * (i / 2) + 2 * column + i % 2

def xorBlocks (left right : Block) : Block := Array.zipWith (· ^^^ ·) left right

def compress (left right : Block) : Block :=
  let mixed := xorBlocks left right
  xorBlocks mixed (lines.foldl permuteAt mixed)

/-- The 32-bit number that the parameters and lengths are written as. -/
def word32 (value : Nat) : Bytes := (Bytes.ofNat 4 value).reverse

/-- The chunks of a long digest: 32 bytes each of `count` digests, each of the one before, and all
of the last one, which has `size` bytes. -/
def chunks (size : Nat) : (count : Nat) → Bytes → Bytes
  | 0, _ => []
  | 1, last => last.take 32 ++ Blake2b.digest size last
  | count + 1, last => last.take 32 ++ chunks size count (Blake2b.digest 64 last)

def longDigest (size : Nat) (message : Bytes) : Bytes :=
  let sized := word32 size ++ message
  if size ≤ 64 then Blake2b.digest size sized
  else
    let count := (size + 31) / 32 - 2
    chunks (size - 32 * count) count (Blake2b.digest 64 sized)

def firstBlock (start : Bytes) (index : Nat) : Block :=
  (words (longDigest 1024 (start ++ word32 index ++ word32 0))).toArray

def zeroBlock : Block := Array.replicate 128 0

/-- The pseudo-random words of a segment whose references follow from a counter. -/
def addresses (pass slice passes : Nat) : Block :=
  let numbers := [pass, 0, slice, blockCount, passes, 2, 1].map UInt64.ofNat
  let input := (numbers ++ List.replicate 121 0).toArray
  compress zeroBlock (compress zeroBlock input)

/-- The block that the block `place` of a segment refers to, chosen by a pseudo-random word among
those that are filled already and not the one right before it. -/
def reference (pass slice place : Nat) (random : UInt64) : Nat :=
  let area :=
    if pass = 0 then slice * segmentLength + place - 1
    else blockCount - segmentLength + place - 1
  let low := random.toNat % 0x100000000
  let distance := area * (low * low / 0x100000000) / 0x100000000
  let start := if pass = 0 || slice = 3 then 0 else (slice + 1) * segmentLength
  (start + (area - 1 - distance)) % blockCount

def fillBlock (pass slice : Nat) (fixed : Option Block) (memory : Array Block) (place : Nat) :
    Array Block :=
  let current := slice * segmentLength + place
  let previous := memory.getD ((current + blockCount - 1) % blockCount) zeroBlock
  let random := match fixed with
    | some table => table.getD place 0
    | none => previous.getD 0 0
  let next := compress previous (memory.getD (reference pass slice place random) zeroBlock)
  let next := if pass = 0 then next else xorBlocks (memory.getD current zeroBlock) next
  memory.setIfInBounds current next

/-- Fills one segment; the first two blocks of the memory are there before the first pass. -/
def fillSegment (passes pass : Nat) (memory : Array Block) (slice : Nat) : Array Block :=
  let fixed := if pass = 0 && slice < 2 then some (addresses pass slice passes) else none
  let places := List.range segmentLength
  (if pass = 0 && slice = 0 then places.drop 2 else places).foldl
    (fillBlock pass slice fixed) memory

def fillPass (passes : Nat) (memory : Array Block) (pass : Nat) : Array Block :=
  [0, 1, 2, 3].foldl (fillSegment passes pass) memory

def startDigest (password salt : Bytes) (passes : Nat) : Bytes :=
  Blake2b.digest 64
    (word32 1 ++ word32 32 ++ word32 blockCount ++ word32 passes ++ word32 0x13 ++ word32 2 ++
      word32 password.length ++ password ++ word32 salt.length ++ salt ++ word32 0 ++ word32 0)

/-- The 32-byte key that a password is stretched to in the given number of passes. -/
def derive (password salt : Bytes) (passes : UInt32) : Except Refusal Bytes :=
  if passes = 0 then .error .timeTooSmall
  else if salt.length < 8 then .error .saltTooShort
  else
    let count := passes.toNat
    let start := startDigest password salt count
    let memory := (Array.replicate blockCount zeroBlock).setIfInBounds 0 (firstBlock start 0)
    let memory := memory.setIfInBounds 1 (firstBlock start 1)
    let filled := Nat.fold count (fun pass _ memory => fillPass count memory pass) memory
    .ok (longDigest 32 ((filled.getD (blockCount - 1) zeroBlock).toList.flatMap wordBytes))

end Coffer.Argon2
