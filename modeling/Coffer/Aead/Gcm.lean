import Coffer.Aead.Aes
/-!
# Sealing in Galois counter mode

The body is the plain text combined with a key stream of encrypted counters; the tag is a polynomial
over the body and its length, evaluated in the field of 128-bit blocks and masked with the first
counter. No further data is authenticated.
-/

namespace Coffer.Gcm

/-- A block as an element of the field, the coefficient of lowest degree in the highest bit. -/
structure Element where
  (high low : UInt64)
  deriving DecidableEq

namespace Element

def zero : Element := ⟨0, 0⟩

def xor (left right : Element) : Element := ⟨left.high ^^^ right.high, left.low ^^^ right.low⟩

/-- The element of up to sixteen bytes; missing ones count as zero. -/
def ofBytes (bytes : Bytes) : Element :=
  let word (part : Bytes) : UInt64 :=
    (part ++ List.replicate (8 - part.length) 0).foldl
      (fun value (byte : UInt8) => value <<< 8 ||| byte.toUInt64) 0
  ⟨word (bytes.take 8), word ((bytes.drop 8).take 8)⟩

def bytes (element : Element) : Bytes :=
  Bytes.ofNat 8 element.high.toNat ++ Bytes.ofNat 8 element.low.toNat

/-- Product with the variable: a shift, and a reduction when a coefficient falls out. -/
def timesX (element : Element) : Element :=
  let shifted : Element :=
    ⟨element.high >>> 1, (element.low >>> 1) ||| (element.high <<< 63)⟩
  if element.low &&& 1 = 1 then ⟨shifted.high ^^^ 0xe100000000000000, shifted.low⟩ else shifted

/-- Adds the products of `factor` with the coefficients in the top `count` bits of a word to
`total`, and shifts the factor past them. -/
def addProducts : (count : Nat) → (word : UInt64) → (total factor : Element) → Element × Element
  | 0, _, total, factor => (total, factor)
  | count + 1, word, total, factor =>
    let total := if word >>> 63 = 1 then total.xor factor else total
    addProducts count (word <<< 1) total factor.timesX

def mul (left right : Element) : Element :=
  let (total, factor) := addProducts 64 left.high zero right
  (addProducts 64 left.low total factor).1

end Element

/-- Evaluates the polynomial whose next coefficients are the blocks of a byte string, the last of
them filled with zeros. -/
def absorb (point : Element) (total : Element) (bytes : Bytes) : Element :=
  if bytes.isEmpty then total
  else absorb point ((total.xor (Element.ofBytes (bytes.take 16))).mul point) (bytes.drop 16)
termination_by bytes.length
decreasing_by
  rename_i nonempty
  cases bytes with
  | nil => simp at nonempty
  | cons _ _ => simp only [List.length_drop, List.length_cons]; omega

/-- The polynomial of a body: its blocks, then the number of its bits. -/
def hash (point : Element) (body : Bytes) : Element :=
  let total := absorb point Element.zero body
  (total.xor ⟨0, UInt64.ofNat (8 * body.length)⟩).mul point

def streamBlock (schedule : Aes.Schedule) (nonce : Bytes) (counter : Nat) : Bytes :=
  (Aes.encrypt schedule (Aes.Block.ofBytes (nonce ++ Bytes.ofNat 4 counter))).bytes

/-- Combines a byte string with the key stream from the given counter on. -/
def combine (schedule : Aes.Schedule) (nonce : Bytes) (counter : Nat) (bytes : Bytes) : Bytes :=
  if bytes.isEmpty then []
  else
    Bytes.xor (bytes.take 16) (streamBlock schedule nonce counter) ++
      combine schedule nonce (counter + 1) (bytes.drop 16)
termination_by bytes.length
decreasing_by
  rename_i nonempty
  cases bytes with
  | nil => simp at nonempty
  | cons _ _ => simp only [List.length_drop, List.length_cons]; omega

def tag (schedule : Aes.Schedule) (nonce body : Bytes) : Bytes :=
  let point := Element.ofBytes (Aes.encrypt schedule (Aes.Block.ofBytes [])).bytes
  (hash point body).bytes.xor (streamBlock schedule nonce 1)

/-- Seals a plain text with a 32-byte key and a 12-byte nonce: the body and its 16-byte tag. -/
def sealText (key nonce plain : Bytes) : Bytes :=
  let schedule := Aes.Schedule.ofKey key
  let body := combine schedule nonce 2 plain
  body ++ tag schedule nonce body

/-- Opens a sealed text; nothing is returned unless the tag is the one of the body. -/
def openText (key nonce ciphertext : Bytes) : Option Bytes :=
  let schedule := Aes.Schedule.ofKey key
  let body := ciphertext.take (ciphertext.length - 16)
  if ciphertext.length < 16 then none
  else if ciphertext.drop (ciphertext.length - 16) = tag schedule nonce body then
    some (combine schedule nonce 2 body)
  else none

end Coffer.Gcm
