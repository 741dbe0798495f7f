import Coffer.Bytes
/-!
# The curve secp256k1

Points of y² = x³ + 7 over a prime field of 256 bits, their sum, multiples of the generator and the
encodings of a point in 33 and 65 bytes. Sums are computed in Jacobian coordinates, (x : y : z) for
the point (x / z², y / z³), so that only the last step divides.
-/

namespace Coffer.Secp256k1

def fieldSize : Nat := 0xfffffffffffffffffffffffffffffffffffffffffffffffffffffffefffffc2f

def groupOrder : Nat := 0xfffffffffffffffffffffffffffffffebaaedce6af48a03bbfd25e8cd0364141

def power (base exponent : Nat) : Nat :=
  if exponent = 0 then 1
  else
    let root := power (base * base % fieldSize) (exponent / 2)
    if exponent % 2 = 1 then root * base % fieldSize else root
termination_by exponent

/-- The inverse in the field; zero has none and stays zero. -/
def inverse (value : Nat) : Nat := power value (fieldSize - 2)

def sub (x y : Nat) : Nat := (x + (fieldSize - y % fieldSize)) % fieldSize

inductive Point where
  | infinity
  | affine (x y : Nat)
  deriving DecidableEq, Repr

/-- Jacobian coordinates; every triple with z = 0 is the point at infinity. -/
structure Jacobian where
  (x y z : Nat)

namespace Jacobian

def infinity : Jacobian := ⟨1, 1, 0⟩

def double (point : Jacobian) : Jacobian :=
  if point.z = 0 || point.y = 0 then infinity
  else
    let ySquare := point.y * point.y % fieldSize
    let s := 4 * point.x * ySquare % fieldSize
    let m := 3 * point.x * point.x % fieldSize
    let x := sub (m * m) (2 * s)
    let y := sub (m * sub s x) (8 * ySquare * ySquare)
    ⟨x, y, 2 * point.y * point.z % fieldSize⟩

def add (left right : Jacobian) : Jacobian :=
  if left.z = 0 then right
  else if right.z = 0 then left
  else
    let leftZ2 := left.z * left.z % fieldSize
    let rightZ2 := right.z * right.z % fieldSize
    let u1 := left.x * rightZ2 % fieldSize
    let u2 := right.x * leftZ2 % fieldSize
    let s1 := left.y * rightZ2 % fieldSize * right.z % fieldSize
    let s2 := right.y * leftZ2 % fieldSize * left.z % fieldSize
    if u1 = u2 then if s1 = s2 then double left else infinity
    else
      let h := sub u2 u1
      let r := sub s2 s1
      let h2 := h * h % fieldSize
      let h3 := h2 * h % fieldSize
      let v := u1 * h2 % fieldSize
      let x := sub (r * r) (h3 + 2 * v)
      let y := sub (r * sub v x) (s1 * h3)
      ⟨x, y, h * left.z % fieldSize * right.z % fieldSize⟩

def ofPoint : Point → Jacobian
  | .infinity => infinity
  | .affine x y => ⟨x, y, 1⟩

def toPoint (point : Jacobian) : Point :=
  if point.z = 0 then .infinity
  else
    let zInverse := inverse point.z
    let zInverse2 := zInverse * zInverse % fieldSize
    .affine (point.x * zInverse2 % fieldSize)
      (point.y * zInverse2 % fieldSize * zInverse % fieldSize)

end Jacobian

def generator : Point :=
  .affine 0x79be667ef9dcbbac55a06295ce870b07029bfcdb2dce28d959f2815b16f81798
    0x483ada7726a3c4655da4fbfc0e1108a8fd17b448a68554199c47d08ffb10d4b8

def doubles : (count : Nat) → Jacobian → List Jacobian
  | 0, _ => []
  | count + 1, point => point :: doubles count point.double

/-- The multiples of the generator by the powers of two below 2^256. -/
def generatorDoubles : List Jacobian := doubles 256 (.ofPoint generator)

/-- Adds the points whose place among the binary digits of a factor holds a one. -/
def sumOfDigits (total : Jacobian) (factor : Nat) : List Jacobian → Jacobian
  | [] => total
  | point :: later =>
    sumOfDigits (if factor % 2 = 1 then total.add point else total) (factor / 2) later

namespace Point

def add (left right : Point) : Point := ((Jacobian.ofPoint left).add (.ofPoint right)).toPoint

/-- A multiple of the generator; the factor is taken modulo 2^256. -/
def ofScalar (factor : Nat) : Point := (sumOfDigits .infinity factor generatorDoubles).toPoint

def compressed : Point → Bytes
  | infinity => 0 :: Bytes.ofNat 32 0
  | affine x y => (if y % 2 = 1 then 3 else 2) :: Bytes.ofNat 32 x

def uncompressed : Point → Bytes
  | infinity => 0 :: Bytes.ofNat 64 0
  | affine x y => 4 :: Bytes.ofNat 32 x ++ Bytes.ofNat 32 y

def ofCompressed? : Bytes → Option Point
  | [] => none
  | parity :: digits =>
    let x := Bytes.toNat digits
    let square := (x * x % fieldSize * x + 7) % fieldSize
    let root := power square ((fieldSize + 1) / 4)
    if (parity = 2 ∨ parity = 3) ∧ digits.length = 32 ∧ x < fieldSize ∧
      root * root % fieldSize = square then
      some (.affine x (if root % 2 = parity.toNat % 2 then root else fieldSize - root))
    else none

end Point

end Coffer.Secp256k1
