import Coffer.Hash.Hmac
/-!
# Stretching a phrase

The first block of PBKDF2 over HMAC-SHA-512, which is the 64 bytes that a seed needs.
-/

namespace Coffer.Pbkdf2

/-- Applies the keyed digest `count` more times to `last` and sums all results into `total`. -/
def iterate (key : Hmac.Key) : (count : Nat) → (last total : Bytes) → Bytes
  | 0, _, total => total
  | count + 1, last, total =>
    let next := key.tag last
    iterate key count next (total.xor next)

def derive (password salt : Bytes) (iterations : Nat) : Bytes :=
  let key := Hmac.Key.ofSecret password
  let first := key.tag (salt ++ Bytes.ofNat 4 1)
  iterate key (iterations - 1) first first

end Coffer.Pbkdf2
