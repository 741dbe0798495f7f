import Coffer.Payload.Transition
import Coffer.Proofs.Payload.Secrets
/-!
# Changes that look at no secret

A change that reads and stores no secret does the same to a payload whatever its secrets are, so
that it may be made before or after the payload is recast.
-/

namespace Coffer.Payload

variable {change : Secret → Secret} {flag : Bool} {hash : Option String} (payload : Payload)

theorem requireBody_recast :
    (payload.recast change flag hash).requireBody =
      payload.requireBody.map (Body.recast change) := by
  rw [requireBody, body?_recast, requireBody]
  cases payload.body? <;> rfl

theorem account_recast (index : UInt64) :
    (payload.recast change flag hash).account index =
      (payload.account index).map (Account.recast change) := by
  rw [account, requireBody_recast, account]
  cases payload.requireBody with
  | error cause => rfl
  | ok body =>
    simp only [Except.map, bind_ok, Body.account?, Body.recast, List.getElem?_map]
    cases body.accounts[index.toNat]? <;> rfl

theorem withAccount_recast (index : UInt64) (account : Account) :
    (payload.recast change flag hash).withAccount index (account.recast change) =
      (payload.withAccount index account).map (recast change flag hash) := by
  rw [withAccount, requireBody_recast, withAccount]
  cases payload.requireBody with
  | error cause => rfl
  | ok body =>
    have changed : (body.recast change).withAccount index (account.recast change) =
        (body.withAccount index account).map (Body.recast change) := by
      simp only [Body.withAccount, Body.recast, List.length_map]
      split
      · simp only [map_ok, Body.recast, List.map_set]
      · rfl
    simp only [map_ok, liftError_ok, bind_ok, changed]
    cases body.withAccount index account <;> rfl

theorem labelAccount_recast (index : UInt64) (label : String) :
    (payload.recast change flag hash).labelAccount index label =
      (payload.labelAccount index label).map (recast change flag hash) := by
  rw [labelAccount, account_recast, labelAccount]
  cases requireText label "account label" with
  | error cause => rfl
  | ok _ =>
    cases payload.account index with
    | error cause => rfl
    | ok account => exact payload.withAccount_recast index { account with label }

theorem defaultAccount_recast :
    (payload.recast change flag hash).defaultAccount = payload.defaultAccount := by
  rw [defaultAccount, body?_recast, defaultAccount]
  cases payload.body? <;> rfl

theorem archiveAccount_recast (index : UInt64) (archived : Bool) :
    (payload.recast change flag hash).archiveAccount index archived =
      (payload.archiveAccount index archived).map (recast change flag hash) := by
  rw [archiveAccount, account_recast, defaultAccount_recast, archiveAccount]
  cases payload.account index with
  | error cause => rfl
  | ok account =>
    simp only [map_ok, liftError_ok, bind_ok]
    split
    · rfl
    · exact payload.withAccount_recast index { account with archived }

theorem chooseDefault_recast (index : UInt64) :
    (payload.recast change flag hash).chooseDefault index =
      (payload.chooseDefault index).map (recast change flag hash) := by
  rw [chooseDefault, account_recast, requireBody_recast, chooseDefault]
  cases payload.account index with
  | error cause => rfl
  | ok account =>
    simp only [map_ok, liftError_ok, bind_ok, Account.recast]
    split
    · rfl
    · cases payload.requireBody <;> rfl

theorem markVerified_recast (verified : Bool) :
    (payload.recast change flag hash).markVerified verified =
      (payload.markVerified verified).map (recast change flag hash) := by
  rw [markVerified, requireBody_recast, markVerified]
  cases payload.requireBody <;> rfl

theorem withAddressLabel_recast (account : Account) (index : UInt32) (label : String) :
    (account.recast change).withAddressLabel index label =
      (account.withAddressLabel index label).map (Account.recast change) := by
  unfold Account.withAddressLabel
  split
  · rfl
  · simp only [Account.recast]
    cases account.addressLabels.find? index with
    | none => rfl
    | some existing =>
      simp only
      split <;> rfl

theorem labelAddress_recast (position : UInt64) (index : UInt32) (label : String) :
    (payload.recast change flag hash).labelAddress position index label =
      (payload.labelAddress position index label).map (recast change flag hash) := by
  rw [labelAddress, account_recast, labelAddress]
  cases payload.account position with
  | error cause => rfl
  | ok account =>
    simp only [map_ok, liftError_ok, bind_ok, withAddressLabel_recast]
    cases account.withAddressLabel index label with
    | error cause => rfl
    | ok labelled => exact payload.withAccount_recast position labelled

theorem putEntry_recast (entry : ImportedAddress) (entries : List ImportedAddress) :
    putEntry (entry.recast change) (entries.map (ImportedAddress.recast change)) =
      (putEntry entry entries).map (ImportedAddress.recast change) := by
  induction entries with
  | nil => rfl
  | cons first later ih =>
    rw [List.map_cons, putEntry, putEntry, ih]
    by_cases own : first.address = entry.address
    · simp only [ImportedAddress.recast, own, if_true, List.map_cons]
    · simp only [ImportedAddress.recast, own, if_false, List.map_cons]

theorem withEntry_recast (entry : ImportedAddress) :
    (payload.recast change flag hash).withEntry (entry.recast change) =
      (payload.withEntry entry).recast change flag hash := by
  simp only [withEntry, recast, putEntry_recast]

theorem addImported_recast {entry : ImportedAddress} (watchOnly : entry.key = none) :
    (payload.recast change flag hash).addImported entry =
      (payload.addImported entry).map (recast change flag hash) := by
  have unchanged : entry.recast change = entry := by
    rw [ImportedAddress.recast, watchOnly, Option.map_none, ← watchOnly]
  rw [addImported, imported?_recast, Option.isSome_map, addImported]
  cases requireText entry.address "address" with
  | error cause => rfl
  | ok _ =>
    simp only [liftError_ok, bind_ok]
    split
    · rfl
    · simp only [pure_eq_ok, map_ok, ← withEntry_recast, unchanged]

theorem requireEntry_recast (address : String) :
    (payload.recast change flag hash).requireEntry address =
      (payload.requireEntry address).map (ImportedAddress.recast change) := by
  rw [requireEntry, imported?_recast, requireEntry]
  cases payload.imported? address <;> rfl

theorem archiveImported_recast (address : String) (archived : Bool) :
    (payload.recast change flag hash).archiveImported address archived =
      (payload.archiveImported address archived).map (recast change flag hash) := by
  rw [archiveImported, requireEntry_recast, archiveImported]
  cases payload.requireEntry address with
  | error cause => rfl
  | ok entry => exact congrArg Except.ok (payload.withEntry_recast { entry with archived })

theorem labelImported_recast (address label : String) :
    (payload.recast change flag hash).labelImported address label =
      (payload.labelImported address label).map (recast change flag hash) := by
  rw [labelImported, requireEntry_recast, labelImported]
  cases payload.requireEntry address with
  | error cause => rfl
  | ok entry => exact congrArg Except.ok (payload.withEntry_recast { entry with label })

theorem setNote_recast (subject note : String) :
    (payload.recast change flag hash).setNote subject note =
      (payload.setNote subject note).map (recast change flag hash) := by
  rw [setNote, setNote]
  cases requireText subject "transaction hash" <;> rfl

end Coffer.Payload
