import Coffer.Proofs.Payload.Transparency
import Coffer.Proofs.Payload.Upkeep
import Coffer.Proofs.Toy
/-!
# Upgrades and new accounts in either order

A wallet of the third version can be upgraded and then be given an account, or be given the account
first. After the upgrade the keys of both schemes are derived at once; before it the legacy keys
are, and the upgrade adds the others. Both make the same account, because the number of an account
is its position in either order. On a wallet with a second password each order encrypts the new keys
afresh; what is the same is the wallet that dropping the password gives.
-/

namespace Coffer.Payload

variable {services plain : Services} {payload next : Payload} {fields : Option FieldCipher}
  {seed : Bytes} {number : UInt32} {position : Nat} {account older : Account}
  {accounts all : List Account} {body : Body} {label : String} {second : Option String}

/-! ## The two orders -/

/-- Upgrades a wallet, then adds an account. Each step makes its random choices from a seed of its
own. -/
def upgradeThenAdd (payload : Payload) (services : Services) (upgrading adding : Bytes)
    (label : String) (second : Option String) : Except WalletError Payload := do
  let upgraded ← payload.upgradeToSegwit { services with seed := upgrading } second
  upgraded.addAccount { services with seed := adding } label second

/-- Adds an account to a wallet, then upgrades it. -/
def addThenUpgrade (payload : Payload) (services : Services) (adding upgrading : Bytes)
    (label : String) (second : Option String) : Except WalletError Payload := do
  let added ← payload.addAccount { services with seed := adding } label second
  added.upgradeToSegwit { services with seed := upgrading } second

/-! ## Accounts -/

theorem addSegwit_of_lacking (lacks : older.xpub? .segwit = none)
    (isNumber : accountNumber? position = some number) :
    addSegwit services fields seed position older = .ok account ↔
      ∃ derivation, derive services fields seed number .segwit = .ok derivation ∧
        older.withDerivation derivation = account := by
  have notThere : ¬ (older.xpub? .segwit).isSome = true := by rw [lacks]; exact Bool.false_ne_true
  rw [addSegwit, if_neg notThere, isNumber]
  simp only [derive]
  cases services.keys.accountKeys seed .segwit number with
  | error cause => simp
  | ok keys =>
    simp only [liftError_ok, bind_ok]
    cases Derivation.protect fields .segwit keys <;> simp

/-- The keys of both schemes are the legacy ones, and the segwit ones that an upgrade adds. -/
theorem deriveAll_both (isNumber : accountNumber? position = some number)
    (isNew : older.derivations = []) :
    deriveAll services fields seed number [.legacy, .segwit] older = .ok account ↔
      ∃ between, deriveAll services fields seed number [.legacy] older = .ok between ∧
        addSegwit services fields seed position between = .ok account := by
  have lacks {derivation : Derivation} (derived : derive services fields seed number .legacy =
      .ok derivation) : (older.withDerivation derivation).xpub? .segwit = none := by
    rw [Account.xpub?_eq_none, Account.withDerivation, isNew]
    simp [(derive_eq_ok.mp derived).1]
  simp only [deriveAll, bind_eq_ok, Except.ok.injEq]
  constructor
  · rintro ⟨legacy, derived, segwit, derivedSegwit, same⟩
    exact ⟨_, ⟨legacy, derived, rfl⟩, (addSegwit_of_lacking (lacks derived) isNumber).mpr
      ⟨segwit, derivedSegwit, same⟩⟩
  · rintro ⟨_, ⟨legacy, derived, rfl⟩, upgraded⟩
    obtain ⟨segwit, derivedSegwit, same⟩ :=
      (addSegwit_of_lacking (lacks derived) isNumber).mp upgraded
    exact ⟨legacy, derived, segwit, derivedSegwit, same⟩

theorem addSegwitFrom_concat :
    addSegwitFrom services fields seed position (accounts ++ [older]) = .ok all ↔
      ∃ others last, addSegwitFrom services fields seed position accounts = .ok others ∧
        addSegwit services fields seed (position + accounts.length) older = .ok last ∧
          all = others ++ [last] := by
  induction accounts generalizing position all with
  | nil =>
    simp only [List.nil_append, addSegwitFrom, bind_ok, bind_eq_ok, pure_eq_ok, Except.ok.injEq,
      List.length_nil, Nat.add_zero]
    constructor
    · rintro ⟨last, upgraded, rfl⟩
      exact ⟨[], last, rfl, upgraded, rfl⟩
    · rintro ⟨_, last, rfl, upgraded, rfl⟩
      exact ⟨last, upgraded, rfl⟩
  | cons first rest ih =>
    simp only [List.cons_append, addSegwitFrom, bind_eq_ok, ih, pure_eq_ok, Except.ok.injEq,
      List.length_cons, Nat.add_right_comm position 1 rest.length]
    constructor
    · rintro ⟨own, upgraded, _, ⟨others, last, upgradedOthers, upgradedLast, rfl⟩, rfl⟩
      exact ⟨own :: others, last, ⟨own, upgraded, others, upgradedOthers, rfl⟩, upgradedLast, rfl⟩
    · rintro ⟨_, last, ⟨own, upgraded, others, upgradedOthers, rfl⟩, upgradedLast, rfl⟩
      exact ⟨own, upgraded, _, ⟨others, last, upgradedOthers, upgradedLast, rfl⟩, rfl⟩

section

variable (sameKeys : plain.keys = services.keys)

include sameKeys

theorem deriveAll_congr (schemes : List Scheme) :
    deriveAll plain fields seed number schemes older =
      deriveAll services fields seed number schemes older := by
  induction schemes generalizing older with
  | nil => rfl
  | cons scheme others ih => simp only [deriveAll, derive, sameKeys, ih]

theorem addSegwitFrom_congr :
    addSegwitFrom plain fields seed position accounts = addSegwitFrom services fields seed position
      accounts := by
  induction accounts generalizing position with
  | nil => rfl
  | cons first rest ih => simp only [addSegwitFrom, addSegwit, sameKeys, ih]

end

/-! ## Wallets in the clear -/

section

variable (isPlain : payload.doubleEncrypted = false) (sameKeys : plain.keys = services.keys)

include isPlain sameKeys

theorem addAccount_eq_ok_of_plain (isBody : payload.body? = some body) :
    payload.addAccount plain label second = .ok next ↔ requireText label "account label" = .ok () ∧
      ∃ seed number account, body.revealSeed none = .ok seed ∧
        accountNumber? body.accounts.length = some number ∧
        deriveAll services none seed number (Scheme.allFor payload.version)
          ⟨label, false, .legacy, [], .empty⟩ = .ok account ∧
        next = payload.withBody { body with accounts := body.accounts ++ [account] } := by
  simp only [addAccount, fieldCipher_of_plain isPlain, requireBody_eq_ok.mpr isBody, liftError_ok,
    bind_ok, bind_eq_ok, liftError_eq_ok, deriveAll_congr sameKeys]
  constructor
  · rintro ⟨_, named, seed, revealed, added⟩
    cases isNumber : accountNumber? body.accounts.length with
    | none =>
      rw [isNumber] at added
      cases added
    | some number =>
      rw [isNumber] at added
      obtain ⟨account, derived, added⟩ := bind_eq_ok.mp added
      exact ⟨named, seed, number, account, revealed, rfl, derived, (Except.ok.inj added).symm⟩
  · rintro ⟨named, seed, number, account, revealed, isNumber, derived, rfl⟩
    refine ⟨(), named, seed, revealed, ?_⟩
    simp only [isNumber, derived, bind_ok, pure_eq_ok]

theorem upgradeToSegwit_eq_ok_of_plain (isOld : payload.version = .v3)
    (onlyBody : payload.bodies = [body]) :
    payload.upgradeToSegwit plain second = .ok next ↔
      ∃ seed accounts, body.revealSeed none = .ok seed ∧
      addSegwitFrom services none seed 0 body.accounts = .ok accounts ∧
      next = { payload with bodies := [{ body with accounts }], version := .v4 } := by
  have needed : payload.needsSegwit = true := by rw [needsSegwit, isOld]; rfl
  simp only [upgradeToSegwit, needed, fieldCipher_of_plain isPlain, onlyBody, List.mapM_cons,
    List.mapM_nil, upgradeBody, addSegwitFrom_congr sameKeys, Bool.not_true, Bool.false_eq_true,
    if_false, bind_ok, bind_eq_ok, pure_eq_ok, Except.ok.injEq]
  constructor
  · rintro ⟨_, ⟨_, ⟨seed, revealed, accounts, upgraded, rfl⟩, rfl⟩, rfl⟩
    exact ⟨seed, accounts, revealed, upgraded, rfl⟩
  · rintro ⟨seed, accounts, revealed, upgraded, rfl⟩
    exact ⟨_, ⟨_, ⟨seed, revealed, accounts, upgraded, rfl⟩, rfl⟩, rfl⟩

end

theorem commute_of_plain (isPlain : payload.doubleEncrypted = false) (isOld : payload.version = .v3)
    (onlyBody : payload.bodies = [body]) (first later other last : Bytes) :
    payload.upgradeThenAdd services first later label second = .ok next ↔
      payload.addThenUpgrade services other last label second = .ok next := by
  have isBody := body?_of_bodies onlyBody
  have sameKeys (seed : Bytes) : Services.keys { services with seed } = services.keys := rfl
  have olderSchemes : Scheme.allFor payload.version = [.legacy] := by rw [isOld]; rfl
  simp only [upgradeThenAdd, addThenUpgrade, bind_eq_ok,
    upgradeToSegwit_eq_ok_of_plain isPlain (sameKeys first) isOld onlyBody,
    addAccount_eq_ok_of_plain isPlain (sameKeys other) isBody, olderSchemes]
  -- The wallet between the two steps is in the clear as well, and of the third version if it is
  -- only given an account.
  have addedPlain (body : Body) : (payload.withBody body).doubleEncrypted = false := isPlain
  have addedOld (body : Body) : (payload.withBody body).version = .v3 := isOld
  have upgradedPlain (bodies : List Body) : Payload.doubleEncrypted
      { payload with bodies, version := .v4 } = false :=
    isPlain
  constructor
  · rintro ⟨_, ⟨seed, accounts, revealed, upgraded, rfl⟩, added⟩
    obtain ⟨named, again, number, account, revealedAgain, isNumber, derived, rfl⟩ :=
      (addAccount_eq_ok_of_plain (upgradedPlain _) (sameKeys later) rfl).mp added
    cases revealed.symm.trans revealedAgain
    rw [(addSegwitFrom_eq_ok upgraded).1] at isNumber
    obtain ⟨between, derivedLegacy, upgradedLast⟩ := (deriveAll_both isNumber rfl).mp derived
    refine ⟨_, ⟨named, seed, number, between, revealed, isNumber, derivedLegacy, rfl⟩, ?_⟩
    rw [← Nat.zero_add body.accounts.length] at upgradedLast
    exact (upgradeToSegwit_eq_ok_of_plain (addedPlain _) (sameKeys last) (addedOld _) rfl).mpr
      ⟨seed, _, revealed, addSegwitFrom_concat.mpr ⟨accounts, account, upgraded, upgradedLast, rfl⟩,
        rfl⟩
  · rintro ⟨_, ⟨named, seed, number, between, revealed, isNumber, derivedLegacy, rfl⟩, upgradedAll⟩
    obtain ⟨again, _, revealedAgain, upgradedEach, rfl⟩ :=
      (upgradeToSegwit_eq_ok_of_plain (addedPlain _) (sameKeys last) (addedOld _) rfl).mp
        upgradedAll
    cases revealed.symm.trans revealedAgain
    obtain ⟨accounts, account, upgraded, upgradedLast, rfl⟩ := addSegwitFrom_concat.mp upgradedEach
    rw [Nat.zero_add] at upgradedLast
    have derived := (deriveAll_both isNumber rfl).mpr ⟨between, derivedLegacy, upgradedLast⟩
    rw [← (addSegwitFrom_eq_ok upgraded).1] at isNumber
    refine ⟨_, ⟨seed, accounts, revealed, upgraded, rfl⟩, ?_⟩
    exact (addAccount_eq_ok_of_plain (upgradedPlain [{ body with accounts }])
      (sameKeys later) rfl).mpr ⟨named, seed, number, account, revealed, isNumber, derived, rfl⟩

/-! ## Wallets with a second password -/

/-- A valid wallet with accounts, and with a second password that it accepts. -/
structure WorksUnder (payload : Payload) (cipher : Cipher) (second : String) : Prop where
  valid : payload.validate = .ok ()
  hierarchical : payload.version.isHierarchical = true
  isLocked : payload.doubleEncrypted = true
  accepted : payload.Accepts cipher second

namespace WorksUnder

variable {cipher : Cipher} {held : String}

/-- A second password is tried on the seed, so that it opens the seed when it is accepted. -/
theorem admitted (works : payload.WorksUnder cipher held) : payload.AdmittedUnder cipher held where
  isLocked := works.isLocked
  accepted := works.accepted
  seeds := by
    obtain ⟨body, onlyBody⟩ := (sound_of_valid works.valid).exists_body works.hierarchical
    have isBody := body?_of_bodies onlyBody
    have isEncrypted : body.seed.isEncrypted = true := by
      rw [(checkEncryption_eq_ok.mp (sound_of_valid works.valid).consistent).1 _
        (seed_mem_secrets isBody), works.isLocked]
    intro other isIn
    rw [onlyBody, List.mem_singleton] at isIn
    subst isIn
    exact (accepts_of_head (head_secrets_of_body isBody) isEncrypted).mp works.accepted
  positive := positive_of_valid works.valid

/-- The second password is dropped when it opens every secret, which then is in the clear. -/
theorem unsetSecond_eq_ok (works : payload.WorksUnder cipher held) :
    payload.unsetSecond cipher held = .ok next ↔
      (∀ secret ∈ (payload.cleared cipher held).secrets, secret.isEncrypted = false) ∧
        next = payload.cleared cipher held := by
  have opened (secret : Secret) : ((payload.fieldsOf cipher [] held).unlock secret).isOk = true ↔
      (Secret.settle (payload.fieldsOf cipher [] held).unlock secret).isEncrypted = false := by
    unfold Secret.settle FieldCipher.unlock
    cases secret with
    | plain text => exact iff_of_true rfl rfl
    | encrypted field =>
      cases (payload.fieldsOf cipher [] held).reveal (.encrypted field) with
      | error cause => exact iff_of_false nofun nofun
      | ok text => exact iff_of_true rfl rfl
  rw [Payload.unsetSecond_eq_ok, cleared, secrets_recast, List.forall_mem_map]
  simp only [works.isLocked, works.accepted, opened, true_and]

/-- A change that is given the second password leaves it in place, and a wallet that is cleared with
the same keys. -/
theorem of_apply {transition : Transition} (works : payload.WorksUnder services.cipher held)
    (inverts : services.cipher.Inverts) (isGiven : transition.given? = some (some held))
    (edits : transition.Edits) (applied : transition.apply services payload = .ok next) :
    next.WorksUnder services.cipher held ∧ next.cleared services.cipher held =
      next.recast (Secret.settle (payload.fieldsOf services.cipher [] held).unlock) false none := by
  have edit : Edit services payload (some held) transition next :=
    edit_of_apply (fun _ _ isAsked => Option.some.inj (isAsked.symm.trans isGiven)) applied edits
  obtain ⟨_, sameKey, sameIterations, sameFlag, _⟩ := edit.kept
  have isLocked := sameFlag.trans works.isLocked
  obtain ⟨body, onlyBody⟩ := (sound_of_valid works.valid).exists_body works.hierarchical
  have isBody := body?_of_bodies onlyBody
  obtain ⟨given, isSecond, accepted⟩ := (Effect.edited edit).admits
    (inverts.at works.admitted.positive) (sound_of_valid works.valid).consistent
    (List.ne_nil_of_mem (seed_mem_secrets isBody)) (fun _ => ⟨held, rfl, works.accepted⟩) isLocked
  cases isSecond
  have watchOnly : ∀ entry, transition = .addImported entry → entry.key = none := by
    rintro entry rfl
    cases isGiven
  refine ⟨⟨(valid_of_apply works.valid applied watchOnly).1,
    edit.isHierarchical works.hierarchical, isLocked, accepted⟩, ?_⟩
  simp only [cleared, fieldsOf, sameKey, sameIterations]

end WorksUnder

/-- A change leaves the second password in place, and does to the wallet in the clear what it does
to the locked one. -/
def Clears (cipher : Cipher) (held : String) (change : Payload → Except WalletError Payload) :
    Prop :=
  ∀ payload, payload.WorksUnder cipher held →
    change (payload.cleared cipher held) = (change payload).map (fun next =>
      next.cleared cipher held) ∧
    ∀ next, change payload = .ok next → next.WorksUnder cipher held

namespace Clears

variable {cipher : Cipher} {held : String} {earlier later : Payload → Except WalletError Payload}

theorem andThen (clears : Clears cipher held earlier) (clearsLater : Clears cipher held later) :
    Clears cipher held fun payload => earlier payload >>= later := by
  intro payload works
  obtain ⟨square, stillWorks⟩ := clears payload works
  dsimp only
  rw [square]
  cases changed : earlier payload with
  | error cause => exact ⟨rfl, nofun⟩
  | ok between => exact clearsLater between (stillWorks between changed)

/-- It is enough that a change does to the wallet in the clear what clearing with the keys from
before gives. -/
theorem of_apply {transition : Transition} (inverts : services.cipher.Inverts)
    (isGiven : transition.given? = some (some held)) (edits : transition.Edits)
    (square : ∀ payload, payload.WorksUnder services.cipher held →
      transition.apply services (payload.cleared services.cipher held) =
        (transition.apply services payload).map
          (recast (Secret.settle (payload.fieldsOf services.cipher [] held).unlock) false none)) :
    Clears services.cipher held (transition.apply services) := by
  intro payload works
  dsimp only
  rw [square payload works]
  cases applied : transition.apply services payload with
  | error cause => exact ⟨rfl, nofun⟩
  | ok next =>
    obtain ⟨stillWorks, isCleared⟩ := works.of_apply inverts isGiven edits applied
    refine ⟨by rw [map_ok, map_ok, isCleared], ?_⟩
    rintro _ ⟨⟩
    exact stillWorks

variable (encrypts : services.cipher.Encrypts) (inverts : services.cipher.Inverts)

include encrypts inverts

theorem upgradeToSegwit :
    Clears services.cipher held fun payload => payload.upgradeToSegwit services (some held) :=
  @of_apply services held (.upgradeToSegwit (some held)) inverts rfl trivial fun _ works =>
    works.admitted.upgradeToSegwit encrypts inverts rfl (some held)

theorem addAccount (label : String) :
    Clears services.cipher held fun payload => payload.addAccount services label (some held) :=
  @of_apply services held (.addAccount label (some held)) inverts rfl trivial fun _ works =>
    works.admitted.addAccount encrypts inverts rfl label (some held)

theorem upgradeThenAdd (first later : Bytes) (label : String) :
    Clears services.cipher held fun payload =>
      payload.upgradeThenAdd services first later label (some held) :=
  andThen (@upgradeToSegwit { services with seed := first } held encrypts inverts)
    (@addAccount { services with seed := later } held encrypts inverts label)

theorem addThenUpgrade (first later : Bytes) (label : String) :
    Clears services.cipher held fun payload =>
      payload.addThenUpgrade services first later label (some held) :=
  andThen (@addAccount { services with seed := first } held encrypts inverts label)
    (@upgradeToSegwit { services with seed := later } held encrypts inverts)

end Clears

/-- Where the second password is that of the wallet, the orders succeed together, and clearing gives
the same wallet. -/
theorem WorksUnder.commute {held : String} (works : payload.WorksUnder services.cipher held)
    (encrypts : services.cipher.Encrypts) (inverts : services.cipher.Inverts)
    (isOld : payload.version = .v3) (first later other last : Bytes) (label : String) :
    ((∃ upgraded, payload.upgradeThenAdd services first later label (some held) = .ok upgraded) ↔
      ∃ added, payload.addThenUpgrade services other last label (some held) = .ok added) ∧
    ∀ upgraded added, payload.upgradeThenAdd services first later label (some held) = .ok upgraded →
      payload.addThenUpgrade services other last label (some held) = .ok added →
      upgraded.cleared services.cipher held = added.cleared services.cipher held := by
  obtain ⟨body, onlyBody⟩ := (sound_of_valid works.valid).exists_body works.hierarchical
  have isPlain : (payload.cleared services.cipher held).doubleEncrypted = false := rfl
  have onlyCleared : (payload.cleared services.cipher held).bodies = [_] :=
    congrArg (List.map _) onlyBody
  have upgradeFirst := (Clears.upgradeThenAdd encrypts inverts first later label payload works).1
  have addFirst := (Clears.addThenUpgrade encrypts inverts other last label payload works).1
  dsimp only at upgradeFirst addFirst
  refine succeed_together fun next => ?_
  rw [← upgradeFirst, ← addFirst]
  exact commute_of_plain isPlain isOld onlyCleared first later other last

/-- Whoever is not admitted can neither upgrade the wallet nor add an account, so that both orders
fail. -/
theorem admits_of_upgradeThenAdd {first later : Bytes}
    (made : payload.upgradeThenAdd services first later label second = .ok next) :
    payload.Admits services.cipher second := by
  obtain ⟨_, upgraded, _⟩ := bind_eq_ok.mp made
  exact @Transition.admits_of_apply { services with seed := first } payload _
    (.upgradeToSegwit second) second rfl upgraded

theorem admits_of_addThenUpgrade {first later : Bytes}
    (made : payload.addThenUpgrade services first later label second = .ok next) :
    payload.Admits services.cipher second := by
  obtain ⟨_, added, _⟩ := bind_eq_ok.mp made
  exact @Transition.admits_of_apply { services with seed := first } payload _
    (.addAccount label second) second rfl added

/-- Upgrading and adding an account commute. On a valid wallet of the third version, whatever
schemes its accounts carry already, the two orders succeed together. They make the same wallet where
no second password is set. Where one is, they succeed with it only, and dropping it afterwards gives
the same wallet or fails after both. -/
theorem upgrade_and_addAccount_commute (services : Services) (encrypts : services.cipher.Encrypts)
    (inverts : services.cipher.Inverts) (payload : Payload) (valid : payload.validate = .ok ())
    (isOld : payload.version = .v3) (label : String) (second : Option String)
    (first later other last : Bytes) :
    ((∃ upgraded, payload.upgradeThenAdd services first later label second = .ok upgraded) ↔
      ∃ added, payload.addThenUpgrade services other last label second = .ok added) ∧
    ∀ upgraded added, payload.upgradeThenAdd services first later label second = .ok upgraded →
      payload.addThenUpgrade services other last label second = .ok added →
      (payload.doubleEncrypted = false → upgraded = added) ∧
      (payload.doubleEncrypted = true → ∃ held, second = some held ∧
        payload.Accepts services.cipher held ∧
        ∀ next, upgraded.unsetSecond services.cipher held = .ok next ↔
          added.unsetSecond services.cipher held = .ok next) := by
  have hierarchical : payload.version.isHierarchical = true := by rw [isOld]; rfl
  cases isLocked : payload.doubleEncrypted with
  | false =>
    obtain ⟨body, onlyBody⟩ : ∃ body, payload.bodies = [body] :=
      (sound_of_valid valid).exists_body hierarchical
    have commute (next : Payload) := @commute_of_plain services payload next body label second
      isLocked isOld onlyBody first later other last
    refine ⟨exists_congr commute, fun upgraded added upgrades adds => ⟨fun _ => ?_, nofun⟩⟩
    exact Except.ok.inj (((commute upgraded).mp upgrades).symm.trans adds)
  | true =>
    have admitted (admits : payload.Admits services.cipher second) :
        ∃ held, second = some held ∧ payload.WorksUnder services.cipher held := by
      obtain ⟨held, isGiven, accepted⟩ := admits isLocked
      exact ⟨held, isGiven, valid, hierarchical, isLocked, accepted⟩
    have together {held : String} (works : payload.WorksUnder services.cipher held) :=
      works.commute encrypts inverts isOld first later other last label
    refine ⟨⟨?_, ?_⟩, fun upgraded added upgrades adds => ⟨nofun, fun _ => ?_⟩⟩
    · rintro ⟨upgraded, upgrades⟩
      obtain ⟨held, rfl, works⟩ := admitted (admits_of_upgradeThenAdd upgrades)
      exact (together works).1.mp ⟨upgraded, upgrades⟩
    · rintro ⟨added, adds⟩
      obtain ⟨held, rfl, works⟩ := admitted (admits_of_addThenUpgrade adds)
      exact (together works).1.mpr ⟨added, adds⟩
    · obtain ⟨held, rfl, works⟩ := admitted (admits_of_upgradeThenAdd upgrades)
      have upgradedWorks :=
        (Clears.upgradeThenAdd encrypts inverts first later label payload works).2 upgraded upgrades
      have addedWorks :=
        (Clears.addThenUpgrade encrypts inverts other last label payload works).2 added adds
      have sameCleared := (together works).2 upgraded added upgrades adds
      refine ⟨held, rfl, works.accepted, fun next => ?_⟩
      rw [upgradedWorks.unsetSecond_eq_ok, addedWorks.unsetSecond_eq_ok, sameCleared]

/-- Transparent keys let a wallet in the clear be upgraded and be given an account, up to the last
number. -/
theorem upgradeThenAdd_succeeds (isPlain : payload.doubleEncrypted = false)
    (isOld : payload.version = .v3) (onlyBody : payload.bodies = [body])
    (revealed : body.revealSeed none = .ok seed)
    (small : body.accounts.length < 0x80000000) (named : requireText label "account label" = .ok ())
    (first later : Bytes) : ∃ next, payload.upgradeThenAdd Toy.services first later label second =
      .ok next := by
  have sameKeys (seed : Bytes) : Services.keys { Toy.services with seed } = Toy.services.keys := rfl
  have inRange : 0 + body.accounts.length ≤ 0x80000000 := by omega
  obtain ⟨accounts, upgraded, length⟩ := Toy.addSegwitFrom_succeeds seed inRange
  rw [← length] at small
  have isNumber : accountNumber? accounts.length = some (UInt32.ofNat accounts.length) :=
    if_pos (Nat.lt_trans small (by decide))
  obtain ⟨account, derived⟩ := Toy.deriveAll_succeeds seed (Toy.ofNat_lt small) (Scheme.allFor .v4)
    ⟨label, false, .legacy, [], .empty⟩
  have upgrades : payload.upgradeToSegwit { Toy.services with seed := first } second = .ok _ :=
    (upgradeToSegwit_eq_ok_of_plain isPlain (sameKeys first) isOld onlyBody).mpr
      ⟨seed, accounts, revealed, upgraded, rfl⟩
  have stillPlain : Payload.doubleEncrypted
      { payload with bodies := [{ body with accounts }], version := .v4 } = false :=
    isPlain
  rw [upgradeThenAdd, upgrades]
  exact ⟨_, (addAccount_eq_ok_of_plain stillPlain (sameKeys later) rfl).mpr
    ⟨named, seed, _, account, revealed, isNumber, derived, rfl⟩⟩

theorem valid_of_upgradeThenAdd {first later : Bytes} (valid : payload.validate = .ok ())
    (made : payload.upgradeThenAdd services first later label second = .ok next) :
    next.validate = .ok () := by
  obtain ⟨between, upgraded, added⟩ := bind_eq_ok.mp made
  have upgrades : (Transition.upgradeToSegwit second).apply { services with seed := first }
    payload = .ok between := upgraded
  have adds : (Transition.addAccount label second).apply { services with seed := later } between =
    .ok next := added
  have betweenValid := (valid_of_apply valid upgrades fun _ isOther => nomatch isOther).1
  exact (valid_of_apply betweenValid adds fun _ isOther => nomatch isOther).1

/-- A wallet that is locked under a second password can be upgraded and be given an account in
either order. -/
theorem upgrade_and_addAccount_commute_locked :
    ∃ locked upgraded added next : Payload, locked.validate = .ok () ∧
    locked.version = .v3 ∧ locked.doubleEncrypted = true ∧
    locked.upgradeThenAdd Toy.services [1] [2] "spare" (some "second") = .ok upgraded ∧
    locked.addThenUpgrade Toy.services [3] [4] "spare" (some "second") = .ok added ∧
    upgraded.unsetSecond Toy.cipher "second" = .ok next ∧
      added.unsetSecond Toy.cipher "second" = .ok next := by
  obtain ⟨payload, labelled, body, _, seed, made, applied, isOld, isPlain, onlyBody, revealed,
      onlyAccount, _⟩ :=
    Toy.new_payload_is_labelled 7 0
  have valid := (valid_of_apply
    (valid_hierarchical (by decide) (by decide) (by decide) made) applied
    fun _ isOther => nomatch isOther).1
  have noHash : labelled.secondHash = none := by
    obtain ⟨_, edit⟩ := exists_edit_of_hierarchical made
    have editLabel : Edit Toy.services payload none (.labelAddress 0 0 "rent") labelled :=
      edit_of_apply (fun _ _ isAsked => nomatch isAsked) applied trivial
    exact editLabel.kept.2.2.2.2.trans edit.kept.2.2.2.2
  obtain ⟨locked, set⟩ :=
    @setSecond_succeeds Toy.cipher labelled "second" [] Toy.cipher_encrypts valid isPlain rfl
  obtain ⟨under, restored⟩ := lockedUnder_of_setSecond Toy.cipher_inverts valid noHash set
  have locks : (Transition.setSecond "second").apply { Toy.services with seed := [] } labelled =
    .ok locked := set
  have lockedValid := (valid_of_apply valid locks fun _ isOther => nomatch isOther).1
  have lockedOld : locked.version = .v3 := (congrArg version restored).trans isOld
  have works : locked.WorksUnder Toy.cipher "second" :=
    ⟨lockedValid, by rw [lockedOld]; rfl, under.isLocked, under.admitted.accepted⟩
  obtain ⟨square, stillWorks⟩ := @Clears.upgradeThenAdd Toy.services "second" Toy.cipher_encrypts
    Toy.cipher_inverts [1] [2] "spare" locked works
  -- What succeeds on the wallet in the clear succeeds on the locked one.
  have oneAccount : body.accounts.length < 0x80000000 := by
    rw [onlyAccount, List.length_singleton]
    decide
  obtain ⟨next, makes⟩ := @upgradeThenAdd_succeeds labelled seed body "spare" (some "second")
    isPlain isOld onlyBody revealed oneAccount rfl [1] [2]
  rw [← restored] at makes
  obtain ⟨upgraded, upgrades, isCleared⟩ := map_eq_ok.mp (square.symm.trans makes)
  have drops : upgraded.unsetSecond Toy.cipher "second" = .ok next := by
    refine (stillWorks upgraded upgrades).unsetSecond_eq_ok.mpr
      ⟨fun secret isIn => ?_, isCleared.symm⟩
    have isPlain : next.doubleEncrypted = false := isCleared ▸ rfl
    have consistent :=
      (sound_of_valid (valid_of_upgradeThenAdd (restored ▸ valid) makes)).consistent
    rw [isCleared] at isIn
    rw [(checkEncryption_eq_ok.mp consistent).1 secret isIn, isPlain]
  obtain ⟨together, alike⟩ := upgrade_and_addAccount_commute Toy.services Toy.cipher_encrypts
    Toy.cipher_inverts locked lockedValid lockedOld "spare" (some "second") [1] [2] [3] [4]
  obtain ⟨added, adds⟩ := together.mp ⟨upgraded, upgrades⟩
  obtain ⟨_, ⟨⟩, _, sameDropped⟩ := (alike upgraded added upgrades adds).2 under.isLocked
  exact ⟨locked, upgraded, added, next, lockedValid, lockedOld, under.isLocked,
    upgrades, adds, drops, (sameDropped next).mp drops⟩

end Coffer.Payload
