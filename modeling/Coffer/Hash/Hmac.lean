import Coffer.Hash.Sha512
/-!
# Keyed digests with SHA-512

The key is mixed into two states once; a message then costs only its own blocks and one more.
-/

namespace Coffer.Hmac

/-- The two states that a key leads to: the inner one starts with the message, the outer one closes
over its digest. -/
structure Key where
  inner : Sha512.State
  outer : Sha512.State

/-- A key of one block: long keys are digested, and the rest is filled with zeros. -/
def block (secret : Bytes) : Bytes :=
  let short := if 128 < secret.length then Sha512.digest secret else secret
  short ++ List.replicate (128 - short.length) 0

def Key.ofSecret (secret : Bytes) : Key :=
  let filled := block secret
  ⟨Sha512.initial.absorb (filled.map (· ^^^ 0x36)), Sha512.initial.absorb (filled.map (· ^^^ 0x5c))⟩

def Key.tag (key : Key) (message : Bytes) : Bytes :=
  key.outer.finish 128 (key.inner.finish 128 message)

def tag (secret message : Bytes) : Bytes := (Key.ofSecret secret).tag message

@[simp] theorem length_tag (secret message : Bytes) : (tag secret message).length = 64 := rfl

end Coffer.Hmac
