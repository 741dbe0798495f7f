import Coffer.Payload.Basic
import Coffer.Proofs.Error
/-!
# What a valid payload is

Each check of a payload, read as the property that it decides. A hierarchical payload has one body
and others have none; no two imported entries share an address; either all secrets are encrypted or
none is.
-/

namespace Coffer

theorem Account.check_eq_ok {account : Account} (position : Nat) :
    account.check position = .ok () ↔ account.defaultXpub?.isSome = true := by
  unfold check
  split
  · rename_i empty
    simp [defaultXpub?, xpub?, derivation?, List.isEmpty_iff.mp empty]
  · cases account.defaultXpub? <;> simp

namespace Body

theorem checkAccounts_eq_ok (position : Nat) {accounts : List Account} :
    checkAccounts position accounts = .ok () ↔
      ∀ account ∈ accounts, account.defaultXpub?.isSome = true := by
  induction accounts generalizing position with
  | nil => simp [checkAccounts]
  | cons account later ih =>
    rw [checkAccounts, List.forall_mem_cons, ← Account.check_eq_ok position]
    cases account.check position with
    | error cause => simp
    | ok _ => simp [ih]

theorem check_eq_ok {body : Body} :
    body.check = .ok () ↔ (∀ account ∈ body.accounts, account.defaultXpub?.isSome = true) ∧
      ∃ account, body.accounts[body.defaultAccount.toNat]? = some account ∧
        account.archived = false := by
  rw [← checkAccounts_eq_ok 0]
  unfold check account?
  split
  · rename_i empty
    simp [List.isEmpty_iff.mp empty]
  · cases checkAccounts 0 body.accounts with
    | error cause => simp
    | ok _ =>
      cases body.accounts[body.defaultAccount.toNat]? with
      | none => simp
      | some account => cases isArchived : account.archived <;> simp [isArchived]

end Body

namespace Payload

/-- Among entries after others that have been seen, the addresses of the entries differ from each
other and from those seen. -/
theorem firstDuplicate?_eq_none {seen : List String} {entries : List ImportedAddress} :
    firstDuplicate? seen entries = none ↔
      (entries.map ImportedAddress.address).Nodup ∧ ∀ entry ∈ entries, entry.address ∉ seen := by
  induction entries generalizing seen with
  | nil => simp [firstDuplicate?]
  | cons entry later ih =>
    rw [firstDuplicate?]
    split
    · rename_i isSeen
      simp [isSeen]
    · rename_i isNew
      rw [ih]
      simp only [List.mem_cons, not_or, List.map_cons, List.nodup_cons, List.mem_map,
        not_exists, not_and, forall_eq_or_imp, isNew, not_false_eq_true, true_and]
      constructor
      · rintro ⟨distinct, others⟩
        exact ⟨⟨fun other isIn => (others other isIn).1, distinct⟩, fun other isIn =>
          (others other isIn).2⟩
      · rintro ⟨⟨differ, distinct⟩, unseen⟩
        exact ⟨distinct, fun other isIn => ⟨differ other isIn, unseen other isIn⟩⟩

theorem checkBodies_eq_ok {payload : Payload} :
    payload.checkBodies = .ok () ↔
      (payload.version.isHierarchical = true ∧ ∃ body, payload.bodies = [body] ∧
        body.check = .ok ()) ∨ (payload.version.isHierarchical = false ∧ payload.bodies = []) := by
  unfold checkBodies
  split
  · rename_i body isHierarchical isOnly
    simp [isHierarchical, isOnly]
  · rename_i isFlat none
    simp [isFlat, none]
  · rename_i bodies notOnly notNone
    constructor
    · intro checked
      cases checked
    · rintro (⟨isHierarchical, body, isOnly, _⟩ | ⟨isFlat, none⟩)
      · exact (notOnly body isHierarchical isOnly).elim
      · exact (notNone isFlat none).elim

/-- Every secret is encrypted just when the payload says so, and a second password can be told from
others. -/
theorem checkEncryption_eq_ok {payload : Payload} :
    payload.checkEncryption = .ok () ↔
      (∀ secret ∈ payload.secrets, secret.isEncrypted = payload.doubleEncrypted) ∧
        (payload.doubleEncrypted = true → payload.secondHash.isSome = true ∨
          payload.secrets ≠ []) := by
  unfold checkEncryption
  split
  · rename_i inconsistent
    have differs : ¬ ∀ secret ∈ payload.secrets, secret.isEncrypted = payload.doubleEncrypted := by
      simpa using inconsistent
    split <;> simp [differs]
  · rename_i consistent
    have same : ∀ secret ∈ payload.secrets, secret.isEncrypted = payload.doubleEncrypted := by
      simpa using consistent
    split
    · rename_i lacking
      simp only [Bool.and_eq_true, Option.isNone_iff_eq_none, List.isEmpty_iff] at lacking
      simp [lacking]
    · rename_i hasReference
      refine iff_of_true rfl ⟨same, fun isLocked => ?_⟩
      cases hash : payload.secondHash <;> simp_all

structure Sound (payload : Payload) : Prop where
  positive : 0 < payload.iterations
  bodies : (payload.version.isHierarchical = true ∧ ∃ body, payload.bodies = [body] ∧
    body.check = .ok ()) ∨ (payload.version.isHierarchical = false ∧ payload.bodies = [])
  distinct : (payload.imported.map ImportedAddress.address).Nodup
  consistent : payload.checkEncryption = .ok ()

theorem Sound.exists_body {payload : Payload} (sound : payload.Sound)
    (hierarchical : payload.version.isHierarchical = true) : ∃ body, payload.bodies = [body] := by
  rcases sound.bodies with ⟨_, body, onlyBody, _⟩ | ⟨isFlat, _⟩
  · exact ⟨body, onlyBody⟩
  · cases isFlat.symm.trans hierarchical

theorem validate_eq_ok {payload : Payload} :
    payload.validate = .ok () ↔ payload.guid ≠ "" ∧ payload.sharedKey ≠ "" ∧ payload.Sound := by
  unfold validate
  split
  · rename_i nameless
    simp only [Bool.or_eq_true, String.isEmpty_iff] at nameless
    refine iff_of_false (fun valid => nomatch valid) fun ⟨named, keyed, _⟩ => ?_
    exact nameless.elim named keyed
  · rename_i named
    simp only [Bool.or_eq_true, String.isEmpty_iff, not_or] at named
    simp only [ne_eq, named, not_false_eq_true, true_and]
    split
    · rename_i none
      exact iff_of_false (fun valid => nomatch valid) fun sound =>
        UInt32.pos_iff_ne_zero.mp sound.positive none
    · rename_i nonzero
      have positive := UInt32.pos_iff_ne_zero.mpr nonzero
      split
      · rename_i cause unfit
        refine iff_of_false (fun valid => nomatch valid) fun sound => ?_
        cases unfit.symm.trans (checkBodies_eq_ok.mpr sound.bodies)
      · rename_i fit
        have distinct : firstDuplicate? [] payload.imported = none ↔
            (payload.imported.map ImportedAddress.address).Nodup := by
          simp [firstDuplicate?_eq_none]
        split
        · rename_i address isDuplicate
          refine iff_of_false (fun valid => nomatch valid) fun sound => ?_
          cases isDuplicate.symm.trans (distinct.mpr sound.distinct)
        · rename_i noDuplicate
          exact ⟨fun consistent =>
            ⟨positive, checkBodies_eq_ok.mp fit, distinct.mp noDuplicate, consistent⟩,
            Sound.consistent⟩

theorem sound_of_valid {payload : Payload} (valid : payload.validate = .ok ()) : payload.Sound :=
  (validate_eq_ok.mp valid).2.2

theorem positive_of_valid {payload : Payload} (valid : payload.validate = .ok ()) :
    0 < payload.iterations :=
  (sound_of_valid valid).positive

end Payload

end Coffer
