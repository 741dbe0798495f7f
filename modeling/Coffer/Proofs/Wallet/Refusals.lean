import Coffer.Proofs.Wallet.Steps
/-!
# Refusals because of reservations

Of everything that is checked when a change is saved, only the change itself can find that an index
is reserved.
-/

namespace Coffer

/-- The failure is that an index is reserved under another label. -/
def ValidationError.saysReserved : ValidationError → Bool
  | .indexAlreadyReserved .. => true
  | _ => false

def WalletError.saysReserved : WalletError → Bool
  | .validation cause => cause.saysReserved
  | _ => false

theorem Account.saysReserved_check {account : Account} {position : Nat} {cause : ValidationError}
    (refused : account.check position = .error cause) : cause.saysReserved = false := by
  unfold check at refused
  split at refused
  · cases refused
    rfl
  · split at refused
    · cases refused
      rfl
    · cases refused

theorem Body.saysReserved_checkAccounts {position : Nat} {accounts : List Account}
    {cause : ValidationError} (refused : checkAccounts position accounts = .error cause) :
    cause.saysReserved = false := by
  induction accounts generalizing position with
  | nil => cases refused
  | cons account later ih =>
    rw [checkAccounts] at refused
    split at refused
    · exact ih refused
    · rename_i isOwn
      cases refused
      exact Account.saysReserved_check isOwn

theorem Body.saysReserved_check {body : Body} {cause : ValidationError}
    (refused : body.check = .error cause) : cause.saysReserved = false := by
  unfold check at refused
  split at refused
  · cases refused
    rfl
  · split at refused
    · rename_i isOwn
      cases refused
      exact saysReserved_checkAccounts isOwn
    · split at refused
      · cases refused
        rfl
      · split at refused
        · cases refused
          rfl
        · cases refused

namespace Payload

variable {payload : Payload} {cause : ValidationError}

theorem saysReserved_checkBodies (refused : payload.checkBodies = .error cause) :
    cause.saysReserved = false := by
  unfold checkBodies at refused
  split at refused
  · exact Body.saysReserved_check refused
  · cases refused
  · cases refused
    rfl

theorem saysReserved_checkEncryption (refused : payload.checkEncryption = .error cause) :
    cause.saysReserved = false := by
  unfold checkEncryption at refused
  split at refused
  · split at refused
    · cases refused
      rfl
    · cases refused
      rfl
  · split at refused
    · cases refused
      rfl
    · cases refused

theorem saysReserved_validate (refused : payload.validate = .error cause) :
    cause.saysReserved = false := by
  unfold validate at refused
  split at refused
  · cases refused
    rfl
  · split at refused
    · cases refused
      rfl
    · split at refused
      · rename_i isOwn
        cases refused
        exact saysReserved_checkBodies isOwn
      · split at refused
        · cases refused
          rfl
        · exact saysReserved_checkEncryption refused

theorem saysReserved_checkSucceeds {previous : Payload}
    (refused : payload.checkSucceeds previous = .error cause) :
    cause.saysReserved = false := by
  unfold checkSucceeds at refused
  split at refused
  · cases refused
    rfl
  · split at refused
    · cases refused
      rfl
    · cases refused

end Payload

namespace Payload

variable {payload : Payload} {position : UInt64} {index : UInt32} {label : String}

theorem saysReserved_requireBody {cause : ValidationError}
    (refused : payload.requireBody = .error cause) : cause.saysReserved = false := by
  unfold requireBody at refused
  split at refused
  · cases refused
  · cases refused
    rfl

theorem saysReserved_account {cause : ValidationError}
    (refused : payload.account position = .error cause) :
    cause.saysReserved = false := by
  rcases bind_eq_error.mp refused with bodiless | ⟨_, _, refused⟩
  · exact saysReserved_requireBody bodiless
  · split at refused
    · cases refused
    · cases refused
      rfl

/-- An index is refused a label because of a reservation only where the account has a label for
it. -/
theorem reserved_of_labelAddress {cause : WalletError}
    (refused : payload.labelAddress position index label = .error cause)
    (isReserved : cause.saysReserved = true) :
    ∃ account, payload.account position = .ok account ∧
      (account.addressLabels.find? index).isSome = true := by
  rcases bind_eq_error.mp refused with missing | ⟨account, isAccount, refused⟩
  · obtain ⟨_, isMissing, rfl⟩ := liftError_eq_error.mp missing
    exact nomatch (saysReserved_account isMissing).symm.trans isReserved
  · refine ⟨account, liftError_eq_ok.mp isAccount, ?_⟩
    rcases bind_eq_error.mp refused with unlabelled | ⟨labelled, _, refused⟩
    · obtain ⟨_, isRefused, rfl⟩ := liftError_eq_error.mp unlabelled
      unfold Account.withAddressLabel at isRefused
      split at isRefused
      · cases isRefused
        cases isReserved
      · split at isRefused
        · rename_i isLabelled
          rw [isLabelled]
          rfl
        · cases isRefused
    · rcases bind_eq_error.mp refused with bodiless | ⟨body, _, refused⟩
      · obtain ⟨_, isBodiless, rfl⟩ := liftError_eq_error.mp bodiless
        exact nomatch (saysReserved_requireBody isBodiless).symm.trans isReserved
      · rcases bind_eq_error.mp refused with missing | ⟨_, _, refused⟩
        · obtain ⟨_, isMissing, rfl⟩ := liftError_eq_error.mp missing
          unfold Body.withAccount at isMissing
          split at isMissing
          · cases isMissing
          · cases isMissing
            cases isReserved
        · cases refused

end Payload

theorem saysReserved_wrap {cipher : Cipher} {seed : Bytes} {payload : Payload} {password : String}
    {cause : WalletError} (refused : wrap cipher seed payload password = .error cause) :
    cause.saysReserved = false := by
  simp only [wrap] at refused
  split at refused
  · cases refused
    rfl
  · cases refused

theorem saysReserved_classify (message : String) : (classify message).saysReserved = false := by
  unfold classify
  split
  · rfl
  · split <;> rfl

theorem StoreError.saysReserved_onWrite (expected : Checksum) (refusal : StoreError) :
    (refusal.onWrite expected).saysReserved = false := by
  cases refusal with
  | rejected message => exact saysReserved_classify message
  | timeout => rfl
  | cancelled => rfl
  | checksumMismatch => rfl

namespace Synchronizer

variable {synchronizer : Synchronizer} {surroundings : Surroundings} {store : Store}
  {cause : WalletError}

theorem saysReserved_checkCandidate {candidate : Payload} {previous : Option Payload}
    (refused : checkCandidate surroundings candidate previous = .error cause) :
    cause.saysReserved = false := by
  unfold checkCandidate at refused
  split at refused
  · cases refused
    rfl
  · rcases bind_eq_error.mp refused with invalid | ⟨_, _, refused⟩
    · obtain ⟨_, isInvalid, rfl⟩ := liftError_eq_error.mp invalid
      exact Payload.saysReserved_validate isInvalid
    · split at refused
      · cases refused
      · rcases bind_eq_error.mp refused with unfit | ⟨_, _, refused⟩
        · obtain ⟨_, isUnfit, rfl⟩ := liftError_eq_error.mp unfit
          exact Payload.saysReserved_checkSucceeds isUnfit
        · cases refused

theorem saysReserved_draft {previous : Committed} {candidate : Payload} {password : String}
    (refused : synchronizer.draft surroundings previous candidate password false = .error cause) :
    cause.saysReserved = false := by
  rcases bind_eq_error.mp refused with unfit | ⟨_, _, refused⟩
  · exact saysReserved_checkCandidate unfit
  · rcases bind_eq_error.mp refused with unsealed | ⟨_, _, refused⟩
    · exact saysReserved_wrap unsealed
    · cases refused

/-- A save without an announcement that fails because of a reservation has failed in the change
itself. -/
theorem built_of_mutate {build : Payload → String → Except WalletError Payload}
    (refused : (synchronizer.mutate surroundings store false build).result = .error cause)
    (isReserved : cause.saysReserved = true) :
    ∃ committed password, synchronizer.committed = some committed ∧
      build committed.payload password = .error cause := by
  simp only [mutate] at refused
  generalize drafted : (do
    let previous ← synchronizer.current
    let password ← synchronizer.mainPassword
    let candidate ← build previous.payload password
    synchronizer.draft surroundings previous candidate password false) = draft at refused
  unfold submit at refused
  split at refused
  · cases refused
    rcases bind_eq_error.mp drafted with unloaded | ⟨committed, isCurrent, drafted⟩
    · unfold current at unloaded
      split at unloaded
      · cases unloaded
      · cases unloaded
        cases isReserved
    · rcases bind_eq_error.mp drafted with unloaded | ⟨password, _, drafted⟩
      · unfold mainPassword at unloaded
        split at unloaded
        · cases unloaded
        · cases unloaded
          cases isReserved
      · rcases bind_eq_error.mp drafted with unbuilt | ⟨candidate, _, drafted⟩
        · exact ⟨committed, password, current_eq_ok isCurrent, unbuilt⟩
        · rw [saysReserved_draft drafted] at isReserved
          cases isReserved
  · split at refused
    · cases refused
      rw [StoreError.saysReserved_onWrite] at isReserved
      cases isReserved
    · cases refused

end Synchronizer

end Coffer
