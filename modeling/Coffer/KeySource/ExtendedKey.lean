import Coffer.Hash.Hmac
import Coffer.Hash.Ripemd160
import Coffer.KeySource.SigningKey
/-!
# Extended keys

A key together with a chain code derives children: from a private key every child, from a public one
those whose number is below 2^31. The texts hold, besides key and chain code, the depth, the number
and the parent.
-/

namespace Coffer.ExtendedKey

open Secp256k1 (Point groupOrder)

/-- Where an extended key stands in its tree, and its chain code. -/
structure Position where
  isMain : Bool
  depth : UInt8
  parent : Bytes
  number : UInt32
  chainCode : Bytes
  deriving DecidableEq, Repr

/-- A private key with its position. -/
structure Private where
  position : Position
  scalar : Nat
  deriving DecidableEq, Repr

structure Public where
  position : Position
  point : Point
  deriving DecidableEq, Repr

/-- A number of a child: hardened numbers are those from 2^31 on. -/
def hardened (number : UInt32) : UInt32 := number + 0x80000000

def keyHash (publicBytes : Bytes) : Bytes := Ripemd160.digest (Sha256.digest publicBytes)

def fingerprint (point : Point) : Bytes := (keyHash point.compressed).take 4

namespace Private

/-- The root of the tree of a seed, unless the seed is one of the few that lead to no key. -/
def ofSeed? (isMain : Bool) (seed : Bytes) : Option Private :=
  let tag := Hmac.tag (Bytes.ofText "Bitcoin seed") seed
  let scalar := Bytes.toNat (tag.take 32)
  if SigningKey.isScalar scalar then
    some ⟨⟨isMain, 0, [0, 0, 0, 0], 0, tag.drop 32⟩, scalar⟩ else none

def toPublic (key : Private) : Public := ⟨key.position, .ofScalar key.scalar⟩

/-- The child of a number, unless it is one of the few that do not exist. -/
def child? (key : Private) (number : UInt32) : Option Private :=
  let publicPoint := Point.ofScalar key.scalar
  let start :=
    if number < 0x80000000 then publicPoint.compressed else 0 :: Bytes.ofNat 32 key.scalar
  let tag := Hmac.tag key.position.chainCode (start ++ Bytes.ofNat 4 number.toNat)
  let tweak := Bytes.toNat (tag.take 32)
  let scalar := (tweak + key.scalar) % groupOrder
  if tweak < groupOrder ∧ scalar ≠ 0 then
    some ⟨⟨key.position.isMain, key.position.depth + 1, fingerprint publicPoint, number,
      tag.drop 32⟩, scalar⟩
  else none

end Private

/-- The child of a public key of a number below 2^31, unless it is one of the few that do not
exist. -/
def Public.child? (key : Public) (number : UInt32) : Option Public :=
  let tag := Hmac.tag key.position.chainCode (key.point.compressed ++ Bytes.ofNat 4 number.toNat)
  let tweak := Bytes.toNat (tag.take 32)
  let point := (Point.ofScalar tweak).add key.point
  if tweak < groupOrder ∧ point ≠ .infinity then
    some ⟨⟨key.position.isMain, key.position.depth + 1, fingerprint key.point, number, tag.drop 32⟩,
      point⟩
  else none

/-- The bytes of a position between the four that tell the kind of key and the key itself. -/
def Position.bytes (position : Position) : Bytes :=
  position.depth :: position.parent ++ Bytes.ofNat 4 position.number.toNat ++ position.chainCode

def Position.read (isMain : Bool) (bytes : Bytes) : Position where
  isMain := isMain
  depth := bytes.getD 4 0
  parent := (bytes.drop 5).take 4
  number := UInt32.ofNat (Bytes.toNat ((bytes.drop 9).take 4))
  chainCode := (bytes.drop 13).take 32

def privateMark (isMain : Bool) : Bytes :=
  if isMain then [0x04, 0x88, 0xad, 0xe4] else [0x04, 0x35, 0x83, 0x94]

def publicMark (isMain : Bool) : Bytes :=
  if isMain then [0x04, 0x88, 0xb2, 0x1e] else [0x04, 0x35, 0x87, 0xcf]

/-- The 78 bytes of a text and the network that the first four stand for. -/
def unpack? (mark : Bool → Bytes) (text : String) : Option (Bool × Bytes) := do
  let bytes ← Base58.decodeChecked? text
  if bytes.length ≠ 78 then none
  else if bytes.take 4 = mark true then some (true, bytes)
  else if bytes.take 4 = mark false then some (false, bytes)
  else none

def Private.encode (key : Private) : String :=
  Base58.encodeChecked
    (privateMark key.position.isMain ++ key.position.bytes ++ 0 :: Bytes.ofNat 32 key.scalar)

def Private.decode? (text : String) : Option Private := do
  let (isMain, bytes) ← unpack? privateMark text
  let scalar := Bytes.toNat (bytes.drop 46)
  if SigningKey.isScalar scalar then some ⟨.read isMain bytes, scalar⟩ else none

def Public.encode (key : Public) : String :=
  Base58.encodeChecked (publicMark key.position.isMain ++ key.position.bytes ++
    key.point.compressed)

def Public.decode? (text : String) : Option Public := do
  let (isMain, bytes) ← unpack? publicMark text
  let point ← Point.ofCompressed? (bytes.drop 45)
  return ⟨.read isMain bytes, point⟩

end Coffer.ExtendedKey
