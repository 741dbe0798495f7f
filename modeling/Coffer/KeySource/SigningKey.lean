import Coffer.Curve.Secp256k1
import Coffer.KeySource.Network
import Coffer.Text.Base58
/-!
# Signing keys

A private key, the network it is meant for, and whether its public key is written in short form, as
a text with a checksum.
-/

namespace Coffer

open Secp256k1 (groupOrder)

structure SigningKey where
  isMain : Bool
  isCompressed : Bool
  scalar : Nat
  deriving DecidableEq, Repr

namespace SigningKey

def isScalar (value : Nat) : Bool := 0 < value && value < groupOrder

def encode (key : SigningKey) : String :=
  Base58.encodeChecked
    ((if key.isMain then 0x80 else 0xef) :: Bytes.ofNat 32 key.scalar ++ if key.isCompressed then
      [1] else [])

/-- The key of a text. What the mark of a short public key says does not matter, only that it is
there. -/
def decode? (text : String) : Option SigningKey := do
  let bytes ← Base58.decodeChecked? text
  let isCompressed ← if bytes.length = 33 then some false else if bytes.length = 34 then
    some true else none
  let isMain ← if bytes.head? = some 0x80 then some true else if bytes.head? = some 0xef then
    some false else none
  let scalar := Bytes.toNat ((bytes.drop 1).take 32)
  if isScalar scalar then some ⟨isMain, isCompressed, scalar⟩ else none

def publicBytes (key : SigningKey) : Bytes :=
  let point := Secp256k1.Point.ofScalar key.scalar
  if key.isCompressed then point.compressed else point.uncompressed

end SigningKey

end Coffer
