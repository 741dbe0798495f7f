import Coffer.Aead.Gcm
/-!
# What is sealed can be opened

The key stream depends on the nonce and the position only, so combining twice with it changes
nothing, and the tag of a body is the same for whoever seals and for whoever opens.
-/

namespace Coffer

namespace Bytes

theorem xor_xor {left right : Bytes} (long : left.length ≤ right.length) :
    xor (xor left right) right = left := by
  induction left generalizing right with
  | nil => rfl
  | cons first others ih =>
    cases right with
    | nil => cases long
    | cons mask later =>
      have shorter := ih (Nat.le_of_succ_le_succ long)
      have unmasked : first ^^^ mask ^^^ mask = first := by
        rw [UInt8.xor_assoc, UInt8.xor_self, UInt8.xor_zero]
      exact List.cons_eq_cons.mpr ⟨unmasked, shorter⟩

theorem length_xor (left right : Bytes) : (xor left right).length = min left.length right.length :=
  List.length_zipWith

end Bytes

namespace Gcm

variable (schedule : Aes.Schedule) (nonce : Bytes)

theorem length_streamBlock (counter : Nat) : (streamBlock schedule nonce counter).length = 16 := rfl

theorem length_tag (body : Bytes) : (tag schedule nonce body).length = 16 := by
  rw [tag, Bytes.length_xor, length_streamBlock, Element.bytes, List.length_append,
    Bytes.length_ofNat, Bytes.length_ofNat]
  rfl

theorem combine_nil (counter : Nat) : combine schedule nonce counter [] = [] := by
  rw [combine]
  rfl

theorem combine_of_ne_nil (counter : Nat) {bytes : Bytes} (nonempty : bytes ≠ []) :
    combine schedule nonce counter bytes = Bytes.xor (bytes.take 16)
      (streamBlock schedule nonce counter) ++
      combine schedule nonce (counter + 1) (bytes.drop 16) := by
  rw [combine, if_neg (by simpa using nonempty)]

theorem length_combine (counter : Nat) (bytes : Bytes) :
    (combine schedule nonce counter bytes).length = bytes.length := by
  induction size : bytes.length using Nat.strongRecOn generalizing counter bytes with
  | ind size ih =>
    subst size
    by_cases empty : bytes = []
    · rw [empty, combine_nil]
    · have positive := List.length_pos_iff.mpr empty
      have later :=
        ih (bytes.drop 16).length (by rw [List.length_drop]; omega) (counter + 1)
        (bytes.drop 16) rfl
      rw [combine_of_ne_nil schedule nonce counter empty, List.length_append, later,
        Bytes.length_xor, length_streamBlock, List.length_take, List.length_drop]
      omega

theorem take_drop_block {head tail : Bytes}
    (full : head.length = 16 ∨ head.length ≤ 16 ∧ tail = []) :
    (head ++ tail).take 16 = head ∧ (head ++ tail).drop 16 = tail := by
  rcases full with whole | ⟨short, rfl⟩
  · exact ⟨List.take_left' whole, List.drop_left' whole⟩
  · rw [List.append_nil]
    exact ⟨List.take_of_length_le short, List.drop_of_length_le short⟩

theorem combine_combine (counter : Nat) (bytes : Bytes) :
    combine schedule nonce counter (combine schedule nonce counter bytes) = bytes := by
  induction size : bytes.length using Nat.strongRecOn generalizing counter bytes with
  | ind size ih =>
    subst size
    by_cases empty : bytes = []
    · rw [empty, combine_nil, combine_nil]
    · have positive := List.length_pos_iff.mpr empty
      have later :=
        ih (bytes.drop 16).length (by rw [List.length_drop]; omega) (counter + 1)
        (bytes.drop 16) rfl
      have unmasked : Bytes.xor (Bytes.xor (bytes.take 16) (streamBlock schedule nonce counter))
          (streamBlock schedule nonce counter) = bytes.take 16 :=
        Bytes.xor_xor (by rw [List.length_take, length_streamBlock]; omega)
      have full : (Bytes.xor (bytes.take 16) (streamBlock schedule nonce counter)).length = 16 ∨
          (Bytes.xor (bytes.take 16) (streamBlock schedule nonce counter)).length ≤ 16 ∧
            combine schedule nonce (counter + 1) (bytes.drop 16) = [] := by
        have rest := length_combine schedule nonce (counter + 1) (bytes.drop 16)
        rw [List.length_drop] at rest
        rw [Bytes.length_xor, length_streamBlock, List.length_take, ← List.length_eq_zero_iff, rest]
        omega
      obtain ⟨taken, dropped⟩ := take_drop_block full
      have nonempty : combine schedule nonce counter bytes ≠ [] := by
        rw [← List.length_pos_iff, length_combine]
        exact positive
      rw [combine_of_ne_nil schedule nonce counter nonempty,
        combine_of_ne_nil schedule nonce counter empty, taken,
        dropped, unmasked, later, List.take_append_drop]

theorem length_sealText (key plain : Bytes) :
    (sealText key nonce plain).length = plain.length + 16 := by
  simp only [sealText, List.length_append, length_combine, length_tag]

theorem openText_sealText (key plain : Bytes) :
    openText key nonce (sealText key nonce plain) = some plain := by
  have size (body : Bytes) : (body ++ tag (.ofKey key) nonce body).length - 16 = body.length := by
    rw [List.length_append, length_tag]
    omega
  have long (body : Bytes) : ¬ (body ++ tag (.ofKey key) nonce body).length < 16 := by
    rw [List.length_append, length_tag]
    omega
  simp only [openText, sealText, size, long, if_false, List.take_left, List.drop_left, if_true,
    combine_combine]

end Gcm

end Coffer
