import Coffer.Cipher
import Coffer.Instant
import Coffer.KeySource
/-!
# Services

What changes of a wallet need from outside: a cipher, a source of keys, and for each call the
reading of the clock and a fresh seed for everything that is chosen at random when something is
encrypted.
-/

namespace Coffer

/-- The collaborators of a call and what is new in it. -/
structure Services where
  cipher : Cipher
  keys : KeySource
  seed : Bytes
  now : Instant

end Coffer
