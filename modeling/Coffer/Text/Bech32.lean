import Coffer.Bytes
/-!
# Segwit addresses

The program of a witness of version 0 in groups of five bits, after a word that names the network
and before six groups that guard both.
-/

namespace Coffer.Bech32

def alphabet : List Char := "qpzry9x8gf2tvdw0s3jn54khce6mua7l".toList

def bits (byte : UInt8) : List Nat :=
  [7, 6, 5, 4, 3, 2, 1, 0].map fun place => byte.toNat >>> place % 2

def groups : List Nat → List Nat
  | [] => []
  | a :: b :: c :: d :: e :: rest => (16 * a + 8 * b + 4 * c + 2 * d + e) :: groups rest
  | [a, b, c, d] => [16 * a + 8 * b + 4 * c + 2 * d]
  | [a, b, c] => [16 * a + 8 * b + 4 * c]
  | [a, b] => [16 * a + 8 * b]
  | [a] => [16 * a]

/-- The constants that are added to the remainder for each bit that falls out of it. -/
def generators : List Nat := [0x3b6a57b2, 0x26508e6d, 0x1ea119fa, 0x3d4233dd, 0x2a1462b3]

/-- One step of the division: shifts a group into the remainder. -/
def step (remainder group : Nat) : Nat :=
  let top := remainder >>> 25
  let shifted := (remainder % 0x2000000) * 32 ^^^ group
  (generators.mapIdx fun place generator => if top >>> place % 2 = 1 then generator else 0).foldl
    (· ^^^ ·) shifted

/-- The network word as groups: the upper bits, a zero, and the lower bits of its characters. -/
def expand (network : List Char) : List Nat :=
  network.map (·.toNat / 32) ++ 0 :: network.map (·.toNat % 32)

def guardOf (network : List Char) (data : List Nat) : List Nat :=
  let remainder := (expand network ++ data ++ List.replicate 6 0).foldl step 1 ^^^ 1
  [5, 4, 3, 2, 1, 0].map fun place => remainder >>> (5 * place) % 32

def encode (network : String) (program : Bytes) : String :=
  let data := 0 :: groups (program.flatMap bits)
  let letters := (data ++ guardOf network.toList data).map fun group => alphabet.getD group 'q'
  network ++ "1" ++ String.ofList letters

end Coffer.Bech32
