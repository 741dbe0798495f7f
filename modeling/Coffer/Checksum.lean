import Coffer.Bytes.Hex
import Coffer.Hash.Sha256
/-!
# Checksums

The fingerprint of a stored text, by which a writer shows that it knows what it is about to replace.
-/

namespace Coffer

structure Checksum where
  hex : String
  deriving DecidableEq, Repr

namespace Checksum

def ofBytes (bytes : Bytes) : Checksum := ⟨Hex.encode (Sha256.digest bytes)⟩

def ofText (text : String) : Checksum := ofBytes (Bytes.ofText text)

end Checksum

end Coffer
