import Coffer.Proofs.Payload.Transparency
import Coffer.Proofs.Wallet.Announcements
import Coffer.Proofs.Wallet.Origins
/-!
# The main password and the second password

A second password that is set may not be the main password. Nothing looks at it when the main
password is renewed, so an update can make the second password the main one. As long as no update
does that, the main password is refused wherever the second one is asked for.
-/

namespace Coffer

variable {services : Services} {cipher : Cipher} {keys : KeySource} {known : String → Prop}
  {payload next : Payload} {held main later : Option String} {transition : Transition}

/-! ## Payloads -/

namespace Payload

/-- A wallet that comes about by changes with known second passwords, and whose second password, if
it has one, is not the main password. -/
structure Apart (payload : Payload) (cipher : Cipher) (known : String → Prop)
    (main held : Option String) : Prop where
  ruled : payload.Ruled cipher known held
  differs : payload.doubleEncrypted = true → main ≠ held

/-- A wallet that has never had a second password. -/
structure NeverLocked (payload : Payload) (cipher : Cipher) (known : String → Prop) : Prop where
  isPlain : payload.doubleEncrypted = false
  ruled : 0 < payload.iterations → payload.Ruled cipher known none

theorem neverLocked_hierarchical {guid sharedKey label : String} {entropy : Bytes}
    {iterations : UInt32} (made : hierarchical keys guid sharedKey label entropy iterations =
      .ok payload) :
    payload.NeverLocked cipher known := by
  obtain ⟨_, edit⟩ := exists_edit_of_hierarchical made
  obtain ⟨_, _, sameIterations, isPlain, _⟩ := edit.kept
  refine ⟨isPlain, fun positive => ?_⟩
  rw [sameIterations] at positive
  exact .hierarchical positive made

theorem NeverLocked.addAccount {label : String} (never : payload.NeverLocked services.cipher known)
    (added : (Transition.addAccount label none).apply services payload = .ok next) :
    next.NeverLocked services.cipher known := by
  constructor
  case isPlain =>
    refine Bool.eq_false_iff.mpr fun isLocked => ?_
    rcases Transition.leaves_locked added isLocked with ⟨_, isOther⟩ | ⟨wasLocked, _⟩
    · cases isOther
    · cases never.isPlain.symm.trans wasLocked
  case ruled =>
    intro positive
    rw [(kept_of_apply added).2.2] at positive
    exact (never.ruled positive).change rfl (Wallet.isGiven_addAccount label) (fun _ isOther =>
      nomatch isOther) added

theorem NeverLocked.apart (never : payload.NeverLocked cipher known)
    (positive : 0 < payload.iterations) : payload.Apart cipher known main none := by
  refine ⟨never.ruled positive, fun isLocked => ?_⟩
  cases never.isPlain.symm.trans isLocked

/-- Where the two passwords are apart, the main one is refused and the second one is not. -/
theorem Apart.checkSecond (apart : payload.Apart cipher known main held) (inverts : cipher.Inverts)
    (tellsApart : cipher.TellsApart known payload.sharedKey payload.iterations)
    (isLocked : payload.doubleEncrypted = true) {given : Option String}
    (isKnown : ∀ other, given = some other → known other) :
    (given = held → payload.checkSecond cipher given = .ok ()) ∧
      (given = main → payload.checkSecond cipher given =
        .error (.credential .invalidSecondPassword)) := by
  have under := apart.ruled.under tellsApart
  obtain ⟨second, rfl, _⟩ := under.digests isLocked
  rw [under.checkSecond isLocked (inverts.at apart.ruled.positive) tellsApart
    (apart.ruled.isKnown second rfl) isKnown]
  constructor
  · intro isHeld
    rw [if_pos isHeld]
  · rintro rfl
    rw [if_neg (apart.differs isLocked)]

/-- What a command makes of a wallet leaves the two passwords apart, unless it renews the main
password to one that passes for the second. -/
theorem Apart.turns {command : Wallet.Command}
    (apart : payload.Apart services.cipher known main held)
    (inverts : services.cipher.Inverts)
    (tellsApart : services.cipher.TellsApart known payload.sharedKey payload.iterations)
    (turns : command.Turns services known payload main next later)
    (unlike : ∀ password, command = .updatePassword password → later = some password →
      payload.doubleEncrypted = true →
      payload.checkSecond services.cipher (some password) ≠ .ok ()) :
    ∃ left, next.Apart services.cipher known later left := by
  cases turns with
  | again => exact ⟨held, apart⟩
  | renewed password =>
    refine ⟨held, apart.ruled, fun isLocked isHeld => unlike password rfl rfl isLocked ?_⟩
    exact (apart.checkSecond inverts tellsApart isLocked fun other isOther =>
      apart.ruled.isKnown other (isHeld.symm.trans isOther)).1 isHeld
  | changed isGiven differs watchOnly applied =>
    refine ⟨_, apart.ruled.change rfl isGiven watchOnly applied, fun isLocked => ?_⟩
    rcases Transition.leaves_locked applied isLocked with ⟨second, rfl⟩ | ⟨wasLocked, stays⟩
    · exact differs second rfl
    · rw [stays]
      exact apart.differs wasLocked

end Payload

/-! ## Wallets -/

namespace Wallet

variable {wallet : Wallet} {workplace : Workplace} {store : Store} {draw : Draw} {command : Command}

theorem checkSecond_of_payload (isPayload : wallet.payload = .ok payload) (second : Option String) :
    wallet.checkSecond workplace second = payload.checkSecond workplace.services.cipher second := by
  rw [checkSecond, isPayload, bind_ok]

/-- Renewing the main password leaves the payload alone, whether it succeeds or fails. -/
theorem payload_of_updatePassword (wallet : Wallet) (workplace : Workplace) (store : Store)
    (password : String) :
    (wallet.updatePassword workplace store password).wallet.payload = wallet.payload := by
  unfold updatePassword
  split
  · rfl
  · rcases wallet.synchronizer.rewrap_cases workplace.surroundings store password with
      same | ⟨old, new, wasCommitted, samePayload, _, commits⟩
    · exact payload_congr (congrArg Synchronizer.committed same)
    · have isCommitted := congrArg Synchronizer.committed commits
      rw [payload_of_committed wasCommitted, ← samePayload]
      exact payload_of_committed isCommitted

/-- The command renews the main password of a wallet with a second password, to one that passes for
the second. -/
def Merges (wallet : Wallet) (workplace : Workplace) (store : Store) (draw : Draw)
    (command : Command) : Prop :=
  ∃ password payload, command = .updatePassword password ∧ wallet.payload = .ok payload ∧
    payload.doubleEncrypted = true ∧ wallet.checkSecond workplace (some password) = .ok () ∧
      (wallet.perform workplace store draw command).wallet.synchronizer.password = some password

theorem Merges.main_passes (merges : wallet.Merges workplace store draw command) :
    ∃ main, (wallet.perform workplace store draw command).wallet.synchronizer.password = some main ∧
      (wallet.perform workplace store draw command).wallet.checkSecond workplace
        (some main) = .ok () := by
  obtain ⟨password, payload, rfl, isPayload, _, passes, isMain⟩ := merges
  have stays : (wallet.perform workplace store draw (.updatePassword password)).wallet.payload =
      .ok payload :=
    (payload_of_updatePassword wallet workplace store password).trans isPayload
  refine ⟨password, isMain, ?_⟩
  rw [checkSecond_of_payload stays, ← checkSecond_of_payload isPayload]
  exact passes

/-- The wallets that come after a new, a recovered or a loaded one, as long as no update of the main
password makes it the second password. They keep to one cipher and one source of keys and are given
no second password but known ones. What is loaded is a payload that such a wallet has stored under
its main password. -/
inductive KeepsApart (cipher : Cipher) (keys : KeySource) (known : String → Prop) : Wallet → Prop
  | created {workplace : Workplace} (store : Store) (draw : Draw) (label email password : String)
      (sameCipher : workplace.services.cipher = cipher)
      (sameKeys : workplace.services.keys = keys) :
      KeepsApart cipher keys known (initial.create workplace store draw label email password).wallet
  | recovered {workplace : Workplace} (store : Store) (draw : Draw)
      (phrase label email password : String) (sameCipher : workplace.services.cipher = cipher)
      (sameKeys : workplace.services.keys = keys) :
      KeepsApart cipher keys known
      (initial.recover workplace store draw phrase label email password).wallet
  | loaded {source : Wallet} {workplace : Workplace} {store : Store}
      {guid sharedKey password : String} {payload : Payload}
      (apart : KeepsApart cipher keys known source) (stored : source.payload = .ok payload)
      (isMain : source.synchronizer.password = some password)
      (isLoaded : (initial.load workplace store guid sharedKey password).wallet.payload =
        .ok payload) :
      KeepsApart cipher keys known (initial.load workplace store guid sharedKey password).wallet
  | performed {wallet : Wallet} {workplace : Workplace} (store : Store) (draw : Draw)
      {command : Command} (apart : KeepsApart cipher keys known wallet)
      (sameCipher : workplace.services.cipher = cipher)
      (sameKeys : workplace.services.keys = keys) (goesOn : command.GoesOn)
      (isGiven : command.IsGiven known) (unmerged : ¬ wallet.Merges workplace store draw command) :
      KeepsApart cipher keys known (wallet.perform workplace store draw command).wallet

namespace KeepsApart

theorem stems (apart : KeepsApart cipher keys known wallet) : Stems cipher keys known wallet := by
  induction apart with
  | created store draw label email password sameCipher sameKeys =>
    exact .created store draw label email password sameCipher sameKeys
  | recovered store draw phrase label email password sameCipher sameKeys =>
    exact .recovered store draw phrase label email password sameCipher sameKeys
  | loaded _ stored _ isLoaded ih => exact .loaded ih stored isLoaded
  | performed store draw _ sameCipher sameKeys goesOn isGiven _ ih =>
    exact .performed store draw ih sameCipher sameKeys goesOn isGiven

theorem positive (apart : KeepsApart cipher keys known wallet) {committed : Committed}
    (isCommitted : wallet.synchronizer.committed = some committed) :
    0 < committed.payload.iterations :=
  Payload.positive_of_valid (apart.stems.reached.arises.valid committed isCommitted)

/-- Whatever such a wallet has committed, its main password is apart from the second. -/
theorem payload_apart (apart : KeepsApart cipher keys known wallet) (inverts : cipher.Inverts)
    {committed : Committed} (isCommitted : wallet.synchronizer.committed = some committed)
    (tellsApart : cipher.TellsApart known committed.payload.sharedKey
      committed.payload.iterations) :
    ∃ held, committed.payload.Apart cipher known wallet.synchronizer.password held := by
  have positive := apart.positive isCommitted
  induction apart generalizing committed with
  | created store draw label email password =>
    exact ⟨none, (holds_of_create Payload.neverLocked_hierarchical isCommitted).apart positive⟩
  | recovered store draw phrase label email password sameCipher =>
    subst sameCipher
    have never : committed.payload.NeverLocked _ known :=
      holds_of_recover Payload.neverLocked_hierarchical Payload.NeverLocked.addAccount isCommitted
    exact ⟨none, never.apart positive⟩
  | loaded apart stored isMain isLoaded ih =>
    obtain ⟨old, wasCommitted, rfl⟩ := payload_eq_ok stored
    have same := Except.ok.inj ((payload_of_committed isCommitted).symm.trans isLoaded)
    rw [same] at tellsApart positive ⊢
    rw [synchronizer_load isCommitted, Synchronizer.commit, ← isMain]
    exact ih wasCommitted tellsApart positive
  | performed store draw apart sameCipher sameKeys goesOn isGiven unmerged ih =>
    subst sameCipher
    obtain ⟨old, wasCommitted, turns⟩ := turns_of_perform store goesOn isGiven isCommitted
    obtain ⟨sharedKey, iterations⟩ := turns.kept
    rw [sharedKey, iterations] at tellsApart
    obtain ⟨held, before⟩ := ih wasCommitted tellsApart (apart.positive wasCommitted)
    refine before.turns inverts tellsApart turns fun password isUpdate isMain isLocked passes =>
      unmerged ?_
    have isPayload := payload_of_committed wasCommitted
    exact ⟨password, old.payload, isUpdate, isPayload, isLocked,
      (checkSecond_of_payload isPayload (some password)).trans passes, isMain⟩

/-- As long as no update makes the second password the main one, a wallet with a second password
refuses its main password in place of it. An update that does so makes the main password pass. -/
theorem main_password_is_refused (apart : KeepsApart cipher keys known wallet)
    (inverts : cipher.Inverts) (sameCipher : workplace.services.cipher = cipher)
    (isPayload : wallet.payload = .ok payload)
    (tellsApart : cipher.TellsApart known payload.sharedKey payload.iterations)
    (isLocked : payload.doubleEncrypted = true) :
    (∀ main, wallet.synchronizer.password = some main → known main →
      wallet.checkSecond workplace (some main) = .error (.credential .invalidSecondPassword)) ∧
    ∀ store draw command, wallet.Merges workplace store draw command →
      ∃ main, (wallet.perform workplace store draw command).wallet.synchronizer.password =
          some main ∧
        (wallet.perform workplace store draw command).wallet.checkSecond workplace
          (some main) = .ok () := by
  constructor
  · intro main isMain isKnown
    obtain ⟨committed, isCommitted, rfl⟩ := payload_eq_ok isPayload
    obtain ⟨held, isApart⟩ := apart.payload_apart inverts isCommitted tellsApart
    have givenKnown : ∀ other, some main = some other → known other := by
      rintro _ ⟨⟩
      exact isKnown
    rw [checkSecond_of_payload isPayload, sameCipher]
    exact (isApart.checkSecond inverts tellsApart isLocked givenKnown).2 isMain.symm
  · intro store draw command merges
    exact merges.main_passes

end KeepsApart

/-! ## Setting passwords where nothing is in the way -/

section InStep

variable {committed : Committed} {device : Device} {password second : String}
  (inStep : wallet.synchronizer.InStep store committed)
  (encrypts : workplace.services.cipher.Encrypts)
  (hasDevice : workplace.config.device = some device) (valid : committed.payload.validate = .ok ())

include inStep encrypts hasDevice valid

/-- A wallet without a second password can be given one that is not blank and is not its main
password. -/
theorem enableSecond_in_step (draw : Draw) (isMain : wallet.synchronizer.password = some password)
    (isPlain : committed.payload.doubleEncrypted = false) (named : Text.allBlank second = false)
    (unlike : password ≠ second) : ∃ new,
      (Transition.setSecond second).apply workplace.services committed.payload = .ok new.payload ∧
      (wallet.perform workplace store draw (.enableSecond second)).wallet.synchronizer.InStep
        (wallet.perform workplace store draw (.enableSecond second)).store new := by
  obtain ⟨next, isSet⟩ :=
    Payload.setSecond_succeeds workplace.services.seed encrypts valid isPlain named
  have applied : (Transition.setSecond second).apply workplace.services committed.payload =
    .ok next := isSet
  obtain ⟨stillValid, succeeds⟩ :=
    Payload.valid_of_apply valid applied fun _ isOther => nomatch isOther
  have built (main : String) (isHeld : wallet.synchronizer.password = some main) :
      (if main = second then
        .error (.validation (.invalidInput "second password must differ from main password"))
      else committed.payload.setSecond workplace.services.cipher workplace.services.seed second) =
          Except.ok next := by
    cases isMain.symm.trans isHeld
    rw [if_neg unlike]
    exact isSet
  have stands : ∃ new, (wallet.enableSecond workplace store second).result = .ok new ∧
      new.payload = next ∧ (wallet.enableSecond workplace store second).wallet.synchronizer.InStep
        (wallet.enableSecond workplace store second).store new :=
    inStep.mutate encrypts hasDevice built stillValid succeeds (kept_of_apply applied).2.1
      fun isFalse => nomatch isFalse
  obtain ⟨new, _, rfl, stillInStep⟩ := stands
  exact ⟨new, applied, stillInStep⟩

theorem updatePassword_in_step (draw : Draw) (named : password.isEmpty = false) :
    (wallet.perform workplace store draw (.updatePassword password)).wallet.synchronizer.password =
      some password := by
  obtain ⟨record, isStored, sameKey, sameChecksum⟩ := inStep.isStored
  have succeeds : ∃ new,
      ((Replacement.rewrap password).perform wallet.synchronizer workplace.surroundings
        store).result = .ok new :=
    Synchronizer.rewrap_succeeds password encrypts hasDevice inStep.isCommitted valid
      inStep.noFailure isStored sameKey sameChecksum
  obtain ⟨new, performed⟩ := succeeds
  obtain ⟨plan, _, _, planned, _, _, _, _, _, _, saved⟩ := Synchronizer.replace_eq_ok performed
  obtain ⟨_, _, planned⟩ := bind_eq_ok.mp planned
  cases planned
  have isMain := congrArg (fun attempt => attempt.synchronizer.password) saved.attempt_eq
  simp only [perform, updatePassword, named]
  exact isMain

end InStep

end Wallet

/-! ## A new wallet with a second password -/

namespace Toy

open Wallet

def brisk : Workplace := { workplace with config := { workplace.config with iterations := 1 } }

theorem brisk_hosts : Hosts brisk := ⟨rfl, ⟨_, rfl⟩, by decide⟩

/-- The main password of a new wallet, and a second password for it. -/
def Either (text : String) : Prop := text = "password" ∨ text = "second"

theorem cipher_tellsApart_either : Toy.cipher.TellsApart Either "key" 1 := by
  apply cipher_tellsApart
  · rintro _ _ (rfl | rfl) (rfl | rfl) <;> decide +kernel
  · rintro _ _ (rfl | rfl) (rfl | rfl) <;> decide +kernel

/-- What is left after a second password was set for a new wallet. -/
def locked : Reply Answer :=
  (created brisk).wallet.perform brisk (created brisk).store ⟨"", "", []⟩ (.enableSecond "second")

/-- What is left after the main password of that wallet was renewed, to the second password. -/
def merged : Reply Answer :=
  locked.wallet.perform brisk locked.store ⟨"", "", []⟩ (.updatePassword "second")

theorem isGiven_enableSecond : (Command.enableSecond "second").IsGiven Either := by
  rintro _ ⟨⟩
  exact .inr rfl

theorem locked_keepsApart : KeepsApart Toy.cipher keySource Either locked.wallet := by
  have created : KeepsApart Toy.cipher keySource Either (created brisk).wallet :=
    .created _ _ _ _ _ rfl rfl
  have goesOn : (Command.enableSecond "second").GoesOn := trivial
  refine created.performed _ _ rfl rfl goesOn isGiven_enableSecond ?_
  rintro ⟨password, payload, isUpdate, _⟩
  cases isUpdate

theorem locked_stands : ∃ committed, locked.wallet.synchronizer.InStep locked.store committed ∧
    locked.wallet.synchronizer.password = some "password" ∧
      committed.payload.doubleEncrypted = true ∧
      committed.payload.Ruled Toy.cipher Either (some "second") ∧
      Toy.cipher.TellsApart Either committed.payload.sharedKey committed.payload.iterations := by
  obtain ⟨committed, _, _, starts⟩ := brisk_hosts.starts
  obtain ⟨_, edit⟩ := Payload.exists_edit_of_hierarchical starts.made
  obtain ⟨_, sharedKey, iterations, isPlain, _⟩ := edit.kept
  have positive := brisk_hosts.positive
  have valid := Payload.valid_hierarchical (by decide) (by decide) positive starts.made
  obtain ⟨new, applied, inStep⟩ := enableSecond_in_step starts.inStep brisk_hosts.encrypts rfl
    valid ⟨"", "", []⟩ starts.isMain isPlain
    (by decide : Text.allBlank "second" = false) (by decide)
  have goesOn : (Command.enableSecond "second").GoesOn := trivial
  obtain ⟨_, _, turns⟩ :=
    turns_of_perform (created brisk).store goesOn isGiven_enableSecond inStep.isCommitted
  have isMain := (turns.main_stays fun _ isUpdate => nomatch isUpdate).trans starts.isMain
  have isKnown : (Transition.setSecond "second").IsGiven Either := by
    constructor
    · rintro _ ⟨⟩
    · rintro _ ⟨⟩
      exact .inr rfl
  have ruled : new.payload.Ruled Toy.cipher Either (some "second") :=
    .change (.hierarchical positive starts.made) rfl isKnown (fun _ isOther =>
      nomatch isOther) applied
  have isSet : committed.payload.setSecond Toy.cipher Toy.services.seed "second" =
    .ok new.payload := applied
  obtain ⟨_, _, _, _, isLocked⟩ := Payload.setSecond_eq_ok.mp isSet
  obtain ⟨_, sameKey, sameIterations⟩ := kept_of_apply applied
  refine ⟨new, inStep, isMain, congrArg Payload.doubleEncrypted isLocked, ruled, ?_⟩
  rw [sameKey, sameIterations, sharedKey, iterations]
  exact cipher_tellsApart_either

theorem second_passes {committed : Committed}
    (isCommitted : locked.wallet.synchronizer.committed = some committed)
    (isLocked : committed.payload.doubleEncrypted = true)
    (ruled : committed.payload.Ruled Toy.cipher Either (some "second"))
    (tellsApart : Toy.cipher.TellsApart Either committed.payload.sharedKey
      committed.payload.iterations) :
    locked.wallet.checkSecond brisk (some "second") = .ok () := by
  have under := ruled.under tellsApart
  rw [checkSecond_of_payload (payload_of_committed isCommitted)]
  refine (under.checkSecond isLocked (cipher_inverts.at ruled.positive) tellsApart (.inr rfl)
    ?_).trans (if_pos rfl)
  rintro _ ⟨⟩
  exact .inr rfl

end Toy

namespace Wallet

/-- A new wallet with a second password refuses its main password in place of it. -/
theorem main_password_is_refused_new :
    KeepsApart Toy.cipher Toy.keySource Toy.Either Toy.locked.wallet ∧
    ∃ payload, Toy.locked.wallet.payload = .ok payload ∧ payload.doubleEncrypted = true ∧
      Toy.locked.wallet.synchronizer.password = some "password" ∧
        Toy.locked.wallet.checkSecond Toy.brisk (some "password") =
          .error (.credential .invalidSecondPassword) := by
  obtain ⟨committed, inStep, isMain, isLocked, _, tellsApart⟩ := Toy.locked_stands
  have isPayload := payload_of_committed inStep.isCommitted
  have sameCipher : Toy.brisk.services.cipher = Toy.cipher := rfl
  obtain ⟨refused, _⟩ :=
    Toy.locked_keepsApart.main_password_is_refused Toy.cipher_inverts sameCipher isPayload
      tellsApart isLocked
  have isRefused := refused "password" isMain (.inl rfl)
  exact ⟨Toy.locked_keepsApart, committed.payload, isPayload, isLocked, isMain, isRefused⟩

/-- The main password of that wallet can be renewed to the second password, and then passes for
it. -/
theorem main_password_is_second : Stems Toy.cipher Toy.keySource Toy.Either Toy.merged.wallet ∧
    ∃ payload main, Toy.merged.wallet.payload = .ok payload ∧ payload.doubleEncrypted = true ∧
      Toy.merged.wallet.synchronizer.password = some main ∧
        Toy.merged.wallet.checkSecond Toy.brisk (some main) = .ok () := by
  obtain ⟨committed, inStep, _, isLocked, ruled, tellsApart⟩ := Toy.locked_stands
  have isPayload := payload_of_committed inStep.isCommitted
  have valid :=
    (Toy.locked_keepsApart.stems.reached.keeps Toy.keySource_tellsApart committed
    inStep.isCommitted).valid
  have isMain := updatePassword_in_step inStep Toy.brisk_hosts.encrypts rfl valid ⟨"", "", []⟩
    (by decide : "second".isEmpty = false)
  have passes := Toy.second_passes inStep.isCommitted isLocked ruled tellsApart
  have merges : Toy.locked.wallet.Merges Toy.brisk Toy.locked.store ⟨"", "", []⟩
      (.updatePassword "second") :=
    ⟨"second", committed.payload, rfl, isPayload, isLocked, passes, isMain⟩
  obtain ⟨main, isNew, mainPasses⟩ := merges.main_passes
  have stays : Toy.merged.wallet.payload = .ok committed.payload :=
    (payload_of_updatePassword Toy.locked.wallet Toy.brisk Toy.locked.store "second").trans
      isPayload
  have goesOn : (Command.updatePassword "second").GoesOn := trivial
  constructor
  · exact Toy.locked_keepsApart.stems.performed _ _ rfl rfl goesOn fun _ isAsked => nomatch isAsked
  · exact ⟨committed.payload, main, stays, isLocked, isNew, mainPasses⟩

end Wallet

end Coffer
