import Coffer.Proofs.Payload.Naturality
import Coffer.Proofs.Payload.Preservation
/-!
# Second passwords are transparent

A wallet with a second password behaves like the wallet that dropping it would give. The wallet in
the clear is a recast of the locked one, and each function that reads or stores secrets does the
same on both sides: with the field cipher on the locked wallet, and without one on the other.
-/

namespace Coffer

/-! ## Storing secrets -/

section

variable {change : Secret → Secret} {fields : FieldCipher}
  (protects : ∀ text, Secret.protect none text = (Secret.protect (some fields) text).map change)

include protects

theorem Derivation.protect_recast (scheme : Scheme) (keys : AccountKeys) :
    protect none scheme keys = (protect (some fields) scheme keys).map (recast change) := by
  rw [protect, protects, protect]
  cases Secret.protect (some fields) keys.xpriv <;> rfl

namespace Payload

variable {services plain : Services} (sameKeys : plain.keys = services.keys) (seed : Bytes)
  (number : UInt32)

include sameKeys

theorem derive_recast (scheme : Scheme) :
    derive plain none seed number scheme =
      (derive services (some fields) seed number scheme).map (Derivation.recast change) := by
  rw [derive, sameKeys, derive]
  cases services.keys.accountKeys seed scheme number with
  | error cause => rfl
  | ok keys => exact Derivation.protect_recast protects scheme keys

omit protects sameKeys in
theorem withDerivation_recast (account : Account) (derivation : Derivation) :
    (account.recast change).withDerivation (derivation.recast change) =
      (account.withDerivation derivation).recast change := by
  simp only [Account.withDerivation, Account.recast, Derivation.recast, List.filter_map,
    List.map_append, List.map_singleton]
  rfl

theorem deriveAll_recast (schemes : List Scheme) (account : Account) :
    deriveAll plain none seed number schemes (account.recast change) =
      (deriveAll services (some fields) seed number schemes account).map
        (Account.recast change) := by
  induction schemes generalizing account with
  | nil => rfl
  | cons scheme others ih =>
    rw [deriveAll, derive_recast protects sameKeys, deriveAll]
    cases derive services (some fields) seed number scheme with
    | error cause => rfl
    | ok derivation =>
      simp only [map_ok, bind_ok, withDerivation_recast]
      exact ih (account.withDerivation derivation)

theorem addSegwit_recast (position : Nat) (account : Account) :
    addSegwit plain none seed position (account.recast change) =
      (addSegwit services (some fields) seed position account).map (Account.recast change) := by
  rw [addSegwit, Account.xpub?_recast, sameKeys, addSegwit]
  split
  · rfl
  · split
    · rfl
    · split
      · rfl
      · rw [Derivation.protect_recast protects]
        cases Derivation.protect (some fields) .segwit _ with
        | error cause => rfl
        | ok derivation => exact congrArg Except.ok (withDerivation_recast account derivation)

theorem addSegwitFrom_recast (position : Nat) (accounts : List Account) :
    addSegwitFrom plain none seed position (accounts.map (Account.recast change)) =
      (addSegwitFrom services (some fields) seed position accounts).map
        (List.map (Account.recast change)) := by
  induction accounts generalizing position with
  | nil => rfl
  | cons account later ih =>
    rw [List.map_cons, addSegwitFrom, addSegwit_recast protects sameKeys, ih, addSegwitFrom]
    cases addSegwit services (some fields) seed position account with
    | error cause => rfl
    | ok next => cases addSegwitFrom services (some fields) seed (position + 1) later <;> rfl

theorem upgradeBody_recast {body : Body}
    (reads : (change body.seed).reveal none = body.seed.reveal (some fields)) :
    upgradeBody plain none (body.recast change) =
      (upgradeBody services (some fields) body).map (Body.recast change) := by
  have sameSeed : (body.recast change).revealSeed none = body.revealSeed (some fields) := by
    simp only [Body.revealSeed, Body.revealEntropy, Body.recast, reads]
  rw [upgradeBody, sameSeed, upgradeBody]
  cases body.revealSeed (some fields) with
  | error cause => rfl
  | ok seed =>
    simp only [bind_ok, Body.recast, addSegwitFrom_recast protects sameKeys]
    cases addSegwitFrom services (some fields) seed 0 body.accounts <;> rfl

end Payload

theorem Body.ofEntropy_recast (source : KeySource) (entropy : Bytes) (label : String)
    (scheme : Scheme) : ofEntropy source none entropy label scheme =
      (ofEntropy source (some fields) entropy label scheme).map (recast change) := by
  unfold ofEntropy
  cases Phrase.seedOf entropy with
  | error cause => rfl
  | ok seed =>
    simp only [liftError_ok, bind_ok]
    cases source.accountKeys seed scheme 0 with
    | error cause => rfl
    | ok keys =>
      simp only [liftError_ok, bind_ok, protects, Derivation.protect_recast protects]
      cases Secret.protect (some fields) (Hex.encode entropy) with
      | error cause => rfl
      | ok secret => cases Derivation.protect (some fields) scheme keys <;> rfl

end

namespace Payload

/-! ## A locked wallet and the same in the clear -/

def cleared (payload : Payload) (cipher : Cipher) (second : String) : Payload :=
  payload.recast (Secret.settle (payload.fieldsOf cipher [] second).unlock) false none

theorem fieldCipher_recast {change : Secret → Secret} {hash : Option String} (payload : Payload)
    (cipher : Cipher) (seed : Bytes) (any : Option String) :
    (payload.recast change false hash).fieldCipher cipher seed any = .ok none := rfl

theorem entryOfKey_recast {change : Secret → Secret} {flag : Bool} {hash : Option String}
    (payload : Payload) (address : String) (key : Secret) (device : Device) (now : Instant) :
    (payload.recast change flag hash).entryOfKey address (change key) device now =
      (payload.entryOfKey address key device now).map (ImportedAddress.recast change) := by
  rw [entryOfKey, imported?_recast, entryOfKey]
  cases payload.imported? address with
  | none => rfl
  | some existing =>
    obtain ⟨own, stored, label, archived, time, system, appVersion⟩ := existing
    cases stored <;> rfl

/-- A wallet with a second password that it accepts, and that opens its seeds. -/
structure AdmittedUnder (payload : Payload) (cipher : Cipher) (second : String) : Prop where
  isLocked : payload.doubleEncrypted = true
  accepted : payload.Accepts cipher second
  seeds : ∀ body ∈ payload.bodies, ∃ text, (payload.fieldsOf cipher [] second).reveal
    body.seed = .ok text
  positive : 0 < payload.iterations

namespace AdmittedUnder

variable {services : Services} {locked : Payload} {second : String}
  (under : locked.AdmittedUnder services.cipher second)

include under

theorem fieldCipher (seed : Bytes) :
    locked.fieldCipher services.cipher seed (some second) =
      .ok (some (locked.fieldsOf services.cipher seed second)) :=
  fieldCipher_eq_ok.mpr ⟨fun _ => ⟨second, rfl, under.accepted⟩,
    (access_of_locked under.isLocked).symm⟩

/-- What is stored under the second password is what is stored in the clear, once it is dropped. -/
theorem protects (encrypts : services.cipher.Encrypts) (inverts : services.cipher.Inverts)
    (seed : Bytes) (text : String) :
    Secret.protect none text =
      (Secret.protect (some (locked.fieldsOf services.cipher seed second)) text).map
      (Secret.settle (locked.fieldsOf services.cipher [] second).unlock) := by
  have ⟨secret, made⟩ := (locked.fieldsOf services.cipher seed second).encrypt_succeeds encrypts
    under.positive text
  have revealed := FieldCipher.reveal_of_encrypt (inverts.at under.positive) made
  rw [reveal_fieldsOf] at revealed
  rw [Secret.protect, Secret.protect, made, map_ok, settle_unlock revealed]

/-- The seed that is read with the second password is read without it, once it is dropped. -/
theorem reads_seed (seed : Bytes) {body : Body} (isIn : body ∈ locked.bodies) :
    (Secret.settle (locked.fieldsOf services.cipher [] second).unlock body.seed).reveal none =
      body.seed.reveal (some (locked.fieldsOf services.cipher seed second)) := by
  obtain ⟨text, reads⟩ := under.seeds body isIn
  rw [settle_unlock reads, Secret.reveal_some, reveal_fieldsOf, reads]
  rfl

variable (encrypts : services.cipher.Encrypts) (inverts : services.cipher.Inverts)
  {plain : Services} (sameKeys : plain.keys = services.keys) (sameTime : plain.now = services.now)

include encrypts inverts sameKeys

theorem addAccount (label : String) (any : Option String) :
    (locked.cleared services.cipher second).addAccount plain label any =
      (locked.addAccount services label (some second)).map
        (recast (Secret.settle (locked.fieldsOf services.cipher [] second).unlock) false none) := by
  rw [cleared, Payload.addAccount, requireBody_recast, Payload.addAccount, under.fieldCipher]
  cases requireText label "account label" with
  | error cause => rfl
  | ok _ =>
    cases isBody : locked.requireBody with
    | error cause => rfl
    | ok body =>
      have isIn : body ∈ locked.bodies := List.mem_of_head? (requireBody_eq_ok.mp isBody)
      have sameSeed : (body.recast
          (Secret.settle (locked.fieldsOf services.cipher [] second).unlock)).revealSeed none =
          body.revealSeed (some (locked.fieldsOf services.cipher services.seed second)) := by
        simp only [Body.revealSeed, Body.revealEntropy, Body.recast,
          under.reads_seed services.seed isIn]
      simp only [map_ok, liftError_ok, bind_ok, fieldCipher_recast, sameSeed]
      cases body.revealSeed (some (locked.fieldsOf services.cipher services.seed second)) with
      | error cause => rfl
      | ok seed =>
        simp only [bind_ok, Body.recast, List.length_map]
        cases accountNumber? body.accounts.length with
        | none => rfl
        | some number =>
          have derived : deriveAll plain none seed number (Scheme.allFor locked.version)
              ⟨label, false, .legacy, [], .empty⟩ = _ :=
            deriveAll_recast (under.protects encrypts inverts services.seed) sameKeys seed number
              (Scheme.allFor locked.version) ⟨label, false, .legacy, [], .empty⟩
          simp only [recast, derived]
          cases deriveAll services
              (some (locked.fieldsOf services.cipher services.seed second)) seed number
              (Scheme.allFor locked.version) ⟨label, false, .legacy, [], .empty⟩ with
          | error cause => rfl
          | ok account =>
            simp only [map_ok, bind_ok, pure_eq_ok, withBody, recast, Body.recast, List.map_append,
              List.map_cons, List.map_nil]

include sameTime in
theorem importKey (wif : String) (label : Option String) (device : Device) (any : Option String) :
    ((locked.cleared services.cipher second).importKey plain wif label device any).map Prod.fst =
      ((locked.importKey services wif label device (some second)).map Prod.fst).map
        (recast (Secret.settle (locked.fieldsOf services.cipher [] second).unlock) false none) := by
  rw [cleared, Payload.importKey, fieldCipher_recast, sameKeys, sameTime, Payload.importKey,
    under.fieldCipher]
  cases services.keys.addressForKey wif .legacy with
  | error cause => rfl
  | ok address =>
    simp only [liftError_ok, bind_ok, under.protects encrypts inverts services.seed wif]
    cases Secret.protect (some (locked.fieldsOf services.cipher services.seed second)) wif with
    | error cause => rfl
    | ok key =>
      simp only [map_ok, bind_ok, entryOfKey_recast]
      cases locked.entryOfKey address key device services.now with
      | error cause => rfl
      | ok entry =>
        cases label with
        | none => exact congrArg Except.ok (locked.withEntry_recast entry)
        | some label => exact congrArg Except.ok (locked.withEntry_recast { entry with label })

theorem upgradeToAccounts (entropy : Bytes) (label : String) (any : Option String) :
    (locked.cleared services.cipher second).upgradeToAccounts plain entropy label any =
      (locked.upgradeToAccounts services entropy label (some second)).map
        (recast (Secret.settle (locked.fieldsOf services.cipher [] second).unlock) false none) := by
  have sameNeed : (locked.cleared services.cipher second).needsAccounts = locked.needsAccounts :=
    rfl
  rw [Payload.upgradeToAccounts, sameNeed, cleared, fieldCipher_recast, sameKeys,
    Payload.upgradeToAccounts, under.fieldCipher]
  cases locked.needsAccounts with
  | false => rfl
  | true =>
    simp only [Bool.not_true, Bool.false_eq_true, if_false]
    cases requireText label "account label" with
    | error cause => rfl
    | ok _ =>
      simp only [liftError_ok, bind_ok,
        Body.ofEntropy_recast (under.protects encrypts inverts services.seed)]
      cases Body.ofEntropy services.keys
        (some (locked.fieldsOf services.cipher services.seed second)) entropy label
        .legacy <;> rfl

theorem upgradeToSegwit (any : Option String) :
    (locked.cleared services.cipher second).upgradeToSegwit plain any =
      (locked.upgradeToSegwit services (some second)).map
        (recast (Secret.settle (locked.fieldsOf services.cipher [] second).unlock) false none) := by
  have sameNeed : (locked.cleared services.cipher second).needsSegwit = locked.needsSegwit := rfl
  have upgraded : (locked.cleared services.cipher second).bodies.mapM (upgradeBody plain none) =
      _ :=
    mapM_map fun body isBody =>
      upgradeBody_recast (under.protects encrypts inverts services.seed) sameKeys
      (under.reads_seed services.seed isBody)
  rw [Payload.upgradeToSegwit, sameNeed, Payload.upgradeToSegwit, under.fieldCipher]
  cases locked.needsSegwit with
  | false => rfl
  | true =>
    have noFields : (locked.cleared services.cipher second).fieldCipher plain.cipher plain.seed
      any = .ok none := rfl
    simp only [Bool.not_true, Bool.false_eq_true, if_false, noFields, bind_ok, upgraded]
    cases locked.bodies.mapM
      (upgradeBody services (some (locked.fieldsOf services.cipher services.seed second))) <;> rfl

end AdmittedUnder

/-- A wallet whose every secret is locked under a second password that it tells from others. -/
structure LockedUnder (payload : Payload) (cipher : Cipher) (second : String) : Prop where
  isLocked : payload.doubleEncrypted = true
  opens : payload.Open cipher (some second)
  digests : payload.Digests (some second)
  positive : 0 < payload.iterations

theorem LockedUnder.admitted {cipher : Cipher} {locked : Payload} {second : String}
    (under : locked.LockedUnder cipher second) : locked.AdmittedUnder cipher second where
  isLocked := under.isLocked
  accepted := by
    obtain ⟨given, isGiven, accepted⟩ := under.opens.admits under.digests under.isLocked
    cases isGiven
    exact accepted
  seeds := by
    intro body isIn
    obtain ⟨text, reads⟩ := under.opens body.seed
      (List.mem_append_left _ (List.mem_flatMap.mpr ⟨body, isIn, List.mem_cons_self⟩))
    exact ⟨text, (reads_of_locked under.isLocked).mp reads⟩
  positive := under.positive

end Payload

/-! ## Changes -/

namespace Transition

/-- The change with another second password, where it is given one. -/
def under (second : String) : Transition → Transition
  | addAccount label _ => addAccount label (some second)
  | importKey wif label device _ => importKey wif label device (some second)
  | upgradeToAccounts entropy label _ => upgradeToAccounts entropy label (some second)
  | upgradeToSegwit _ => upgradeToSegwit (some second)
  | other => other

/-- The change neither sets nor drops a second password, and what it adds as it is given has no
key. -/
def IsOrdinary : Transition → Prop
  | setSecond _ | unsetSecond _ => False
  | addImported entry => entry.key = none
  | _ => True

end Transition

namespace Payload.LockedUnder

variable {services plain : Services} {payload locked next : Payload} {second : String}
  {transition : Transition}

/-- A change of the wallet in the clear is the change of the locked wallet, cleared afterwards. -/
theorem apply_cleared (under : locked.LockedUnder services.cipher second)
    (encrypts : services.cipher.Encrypts) (inverts : services.cipher.Inverts)
    (sameKeys : plain.keys = services.keys) (sameTime : plain.now = services.now)
    (ordinary : transition.IsOrdinary) :
    transition.apply plain (locked.cleared services.cipher second) =
      ((transition.under second).apply services locked).map
        (recast (Secret.settle (locked.fieldsOf services.cipher [] second).unlock) false none) := by
  cases transition with
  | addAccount label any => exact under.admitted.addAccount encrypts inverts sameKeys label any
  | labelAccount index label => exact locked.labelAccount_recast index label
  | archiveAccount index archived => exact locked.archiveAccount_recast index archived
  | chooseDefault index => exact locked.chooseDefault_recast index
  | markVerified verified => exact locked.markVerified_recast verified
  | labelAddress account index label => exact locked.labelAddress_recast account index label
  | addImported entry => exact locked.addImported_recast ordinary
  | importKey wif label device any =>
    exact under.admitted.importKey encrypts inverts sameKeys sameTime wif label device any
  | archiveImported address archived => exact locked.archiveImported_recast address archived
  | labelImported address label => exact locked.labelImported_recast address label
  | setNote subject note => exact locked.setNote_recast subject note
  | setSecond => exact ordinary.elim
  | unsetSecond => exact ordinary.elim
  | upgradeToAccounts entropy label any =>
    exact under.admitted.upgradeToAccounts encrypts inverts sameKeys entropy label any
  | upgradeToSegwit any => exact under.admitted.upgradeToSegwit encrypts inverts sameKeys any

/-- An ordinary change leaves a locked wallet locked under the same second password. -/
theorem apply (under : locked.LockedUnder services.cipher second)
    (inverts : services.cipher.Inverts) (ordinary : transition.IsOrdinary)
    (applied : (transition.under second).apply services locked = .ok next) :
    Edit services locked (some second) (transition.under second) next ∧
      next.LockedUnder services.cipher second := by
  have fits : (transition.under second).Fits locked (some second) := by
    intro _ given isGiven
    cases transition <;> first | exact ordinary.elim | cases isGiven; rfl | cases isGiven
  have watchOnly : ∀ entry, transition.under second = .addImported entry → entry.key = none := by
    intro entry isChange
    cases transition <;> first | cases isChange; exact ordinary | cases isChange
  have leaves : (transition.under second).leaves (some second) = some second := by
    cases transition <;> first | rfl | exact ordinary.elim
  obtain ⟨change, effect⟩ := effect_of_apply fits applied
  rw [leaves] at effect
  have invertsAt := inverts.at under.positive
  have opens := effect.opens invertsAt watchOnly under.opens
  have digests := effect.digests under.digests
  obtain ⟨_, _, sameIterations⟩ := effect.kept
  have positive : 0 < next.iterations := sameIterations ▸ under.positive
  cases effect with
  | edited edit =>
    obtain ⟨_, _, _, sameFlag, _⟩ := edit.kept
    exact ⟨edit, sameFlag.trans under.isLocked, opens, digests, positive⟩
  | locked wasPlain => exact nomatch wasPlain.symm.trans under.isLocked

theorem unsetSecond (under : locked.LockedUnder services.cipher second) :
    locked.unsetSecond services.cipher second = .ok (locked.cleared services.cipher second) := by
  refine unsetSecond_eq_ok.mpr ⟨under.isLocked, under.admitted.accepted, fun secret isIn => ?_, rfl⟩
  obtain ⟨text, reads⟩ := under.opens secret isIn
  rw [reads_of_locked under.isLocked] at reads
  rw [FieldCipher.unlock, reads]
  rfl

end Payload.LockedUnder

namespace Payload

variable {cipher : Cipher} {payload locked : Payload} {second : String} {seed : Bytes}

/-- Setting a second password on a wallet in the clear locks it, and clearing the locked wallet
gives it back. -/
theorem lockedUnder_of_setSecond (inverts : cipher.Inverts) (valid : payload.validate = .ok ())
    (noHash : payload.secondHash = none) (set : payload.setSecond cipher seed second = .ok locked) :
    locked.LockedUnder cipher second ∧ locked.cleared cipher second = payload := by
  have positive := positive_of_valid valid
  obtain ⟨isPlain, _, consistent, locks, rfl⟩ := setSecond_eq_ok.mp set
  have revealed (secret : Secret) (isIn : secret ∈ payload.secrets) : ∃ text, secret = .plain text ∧
      (payload.fieldsOf cipher [] second).reveal
        (Secret.settle (payload.fieldsOf cipher seed second).lock secret) = .ok text := by
    obtain ⟨text, rfl⟩ := plain_of_consistent consistent isPlain isIn
    have opened := FieldCipher.reveal_of_encrypt (inverts.at positive) (settle_lock (locks _ isIn))
    rw [reveal_fieldsOf] at opened
    exact ⟨text, rfl, opened⟩
  refine ⟨⟨rfl, open_recast fun secret isIn => ?_, fun _ => ⟨second, rfl, rfl⟩, positive⟩, ?_⟩
  · obtain ⟨text, _, opened⟩ := revealed secret isIn
    exact ⟨text, (reads_of_locked rfl).mpr opened⟩
  · have unchanged : payload.recast (Secret.settle (payload.fieldsOf cipher [] second).unlock ∘
        Secret.settle (payload.fieldsOf cipher seed second).lock) payload.doubleEncrypted
          payload.secondHash =
        payload := by
      apply recast_eq_self
      intro secret isIn
      obtain ⟨text, rfl, opened⟩ := revealed secret isIn
      exact settle_unlock opened
    rw [isPlain, noHash] at unchanged
    rw [cleared, recast_recast]
    exact unchanged

/-- A second password can be set on a valid wallet in the clear, unless it is blank. -/
theorem setSecond_succeeds (seed : Bytes) (encrypts : cipher.Encrypts)
    (valid : payload.validate = .ok ()) (isPlain : payload.doubleEncrypted = false)
    (named : Text.allBlank second = false) :
    ∃ locked, payload.setSecond cipher seed second = .ok locked := by
  have sound := sound_of_valid valid
  refine ⟨_, setSecond_eq_ok.mpr ⟨isPlain, ?_, sound.consistent, fun secret isIn => ?_, rfl⟩⟩
  · rw [requireText, named]
    rfl
  · obtain ⟨text, rfl⟩ := plain_of_consistent sound.consistent isPlain isIn
    have ⟨closed, made⟩ := (payload.fieldsOf cipher seed second).encrypt_succeeds encrypts
      sound.positive text
    rw [FieldCipher.lock, made]
    rfl

end Payload

/-- A second password is transparent. On a valid wallet without one it can be set, and dropping it
again restores the wallet. In between, every ordinary change that is given the second password
succeeds just when it does on the wallet in the clear, and fails for the same reason; and dropping
the second password after the change gives what the change makes of the wallet in the clear. What is
chosen at random on either side makes no difference. -/
theorem Transition.second_password_is_transparent (services : Services)
    (encrypts : services.cipher.Encrypts) (inverts : services.cipher.Inverts) (payload : Payload)
    (valid : payload.validate = .ok ()) (isPlain : payload.doubleEncrypted = false)
    (noHash : payload.secondHash = none) (second : String)
    (named : Text.allBlank second = false) (seed : Bytes) :
    ∃ locked, payload.setSecond services.cipher seed second = .ok locked ∧
      locked.unsetSecond services.cipher second = .ok payload ∧
      ∀ (transition : Transition) (other : Bytes), transition.IsOrdinary →
        match (transition.under second).apply services locked with
        | .ok changed =>
            ∃ next, transition.apply { services with seed := other } payload = .ok next ∧
            changed.unsetSecond services.cipher second = .ok next
        | .error cause =>
          transition.apply { services with seed := other } payload = .error cause := by
  obtain ⟨locked, set⟩ := Payload.setSecond_succeeds seed encrypts valid isPlain named
  obtain ⟨under, restored⟩ := Payload.lockedUnder_of_setSecond inverts valid noHash set
  refine ⟨locked, set, restored ▸ under.unsetSecond, fun transition other ordinary => ?_⟩
  have square : transition.apply { services with seed := other }
      (locked.cleared services.cipher second) = _ :=
    under.apply_cleared encrypts inverts rfl rfl ordinary
  rw [restored] at square
  cases applied : (transition.under second).apply services locked with
  | error cause => rw [square, applied, map_error]
  | ok changed =>
    obtain ⟨edit, stillUnder⟩ := under.apply inverts ordinary applied
    refine ⟨_, by rw [square, applied, map_ok], ?_⟩
    have sameFields : changed.fieldsOf services.cipher [] second =
        locked.fieldsOf services.cipher [] second := by
      simp only [Payload.fieldsOf, edit.kept]
    rw [stillUnder.unsetSecond, Payload.cleared, sameFields]

/-- A key that is imported while the wallet is locked is there in the clear once the second password
is dropped. -/
theorem Transition.second_password_is_transparent_readable :
    ∃ locked changed next, Payload.readable.setSecond Toy.cipher [] "second" = .ok locked ∧
      (importKey "wif-hot" none ⟨"android", "1"⟩ (some "second")).apply Toy.services locked =
        .ok changed ∧
      (importKey "wif-hot" none ⟨"android", "1"⟩ none).apply Toy.services .readable = .ok next ∧
      changed.unsetSecond Toy.cipher "second" = .ok next := by
  obtain ⟨locked, set, _, transparent⟩ := second_password_is_transparent Toy.services
    Toy.cipher_encrypts Toy.cipher_inverts .readable rfl rfl rfl "second" rfl []
  have imported := transparent (importKey "wif-hot" none ⟨"android", "1"⟩ none) [] trivial
  have succeeds : ((importKey "wif-hot" none ⟨"android", "1"⟩ none).apply Toy.services
      .readable).isOk = true := by
    decide
  simp only [under] at imported
  split at imported
  · rename_i changed applied
    obtain ⟨next, plain, dropped⟩ := imported
    exact ⟨locked, changed, next, set, applied, plain, dropped⟩
  · have isError : (importKey "wif-hot" none ⟨"android", "1"⟩ none).apply Toy.services .readable =
      .error _ := imported
    rw [isError] at succeeds
    cases succeeds

end Coffer
