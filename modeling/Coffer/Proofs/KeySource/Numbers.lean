import Coffer.KeySource.Hierarchical
import Coffer.Proofs.Error
/-!
# Numbers on a path

The steps below an account have numbers below 2^31. Where an address or a signing key is made, its
index is such a number.
-/

namespace Coffer.Hierarchical

variable {network : Network} {scheme : Scheme} {chain : Chain} {index number : UInt32}

theorem checkNumber_eq_ok {value : UInt32} : checkNumber number = .ok value ↔ number < 0x80000000 ∧
    number = value := by
  rw [checkNumber]
  split
  case isTrue normal => simp [normal]
  case isFalse large => simp [large]

theorem chain_number_lt (chain : Chain) : chain.number < 0x80000000 := by cases chain <;> decide

theorem addressAt_eq_ok {text address : String}
    (made : addressAt network text scheme chain index = .ok address) :
    index < 0x80000000 := by
  obtain ⟨account, -, made⟩ := bind_eq_ok.mp made
  obtain ⟨number, checked, -⟩ := bind_eq_ok.mp made
  exact (checkNumber_eq_ok.mp checked).1

theorem signingKey_eq_ok {text wif : String}
    (made : signingKey network text chain index = .ok wif) :
    index < 0x80000000 := by
  obtain ⟨account, -, made⟩ := bind_eq_ok.mp made
  obtain ⟨number, checked, -⟩ := bind_eq_ok.mp made
  exact (checkNumber_eq_ok.mp checked).1

end Coffer.Hierarchical
