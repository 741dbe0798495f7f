import Coffer.Proofs.Payload.OnePassword
import Coffer.Proofs.Phrase
import Coffer.Proofs.Wallet.Acceptance
/-!
# Wallets that stem from entropy

A wallet that was created or recovered keeps the entropy that it came about from through all that is
done with it. Its backup phrase restores that entropy, and the keys of its accounts are those that
the entropy has at their positions.
-/

namespace Coffer

variable {services : Services} {cipher : Cipher} {keys : KeySource} {known : String → Prop}
  {payload next : Payload} {held second : Option String} {transition : Transition} {entropy : Bytes}

/-! ## Payloads -/

namespace Payload

/-- A wallet with accounts that stems from entropy: `held` is the second password that was set last,
and the secrets are the entropy and the keys that it has. -/
structure StemsFrom (payload : Payload) (cipher : Cipher) (keys : KeySource) (known : String → Prop)
    (entropy : Bytes) (held : Option String) : Prop where
  ruled : payload.Ruled cipher known held
  rooted : payload.RootedIn cipher keys entropy held
  hierarchical : payload.version.isHierarchical = true

theorem stemsFrom_hierarchical (inverts : cipher.Inverts) {guid sharedKey label : String}
    {iterations : UInt32} (positive : 0 < iterations)
    (made : hierarchical keys guid sharedKey label entropy iterations = .ok payload) :
    payload.StemsFrom cipher keys known entropy none := by
  have edit : Edit ⟨cipher, keys, [], Toy.services.now⟩ (flat guid sharedKey iterations) none
      (.upgradeToAccounts entropy label none) payload := edit_of_hierarchical made
  have rooted := edit.rootedIn (inverts.at positive) rfl (rootedIn_flat guid sharedKey iterations)
  refine ⟨.hierarchical positive made, rooted, ?_⟩
  obtain ⟨_, _, made⟩ := bind_eq_ok.mp made
  obtain ⟨_, _, made⟩ := bind_eq_ok.mp made
  cases made
  rfl

theorem keepsTo_of_apply (hierarchical : payload.version.isHierarchical = true)
    (watchOnly : ∀ entry, transition = .addImported entry → entry.key = none)
    (applied : transition.apply services payload = .ok next) : transition.KeepsTo entropy := by
  cases transition with
  | addImported entry => exact watchOnly entry rfl
  | upgradeToAccounts =>
    -- A wallet with accounts needs none.
    simp only [Transition.apply, upgradeToAccounts] at applied
    split at applied
    · cases applied
    · rename_i needed
      cases isVersion : payload.version <;>
        simp_all [needsAccounts, Version.isHierarchical, Version.number]
  | _ => trivial

namespace StemsFrom

variable (stems : payload.StemsFrom cipher keys known entropy held)

include stems

theorem change (inverts : cipher.Inverts)
    (tellsApart : cipher.TellsApart known payload.sharedKey payload.iterations)
    (sameCipher : services.cipher = cipher) (sameKeys : services.keys = keys)
    (isGiven : transition.IsGiven known) (watchOnly : ∀ entry, transition = .addImported entry →
      entry.key = none)
    (applied : transition.apply services payload = .ok next) :
    next.StemsFrom cipher keys known entropy (transition.leaves held) := by
  subst sameCipher sameKeys
  have under := stems.ruled.under tellsApart
  obtain ⟨_, effect⟩ :=
    effect_of_apply (under.fits tellsApart stems.ruled.isKnown isGiven applied) applied
  exact ⟨stems.ruled.change rfl isGiven watchOnly applied,
    effect.rootedIn (inverts.at stems.ruled.positive)
    (keepsTo_of_apply stems.hierarchical watchOnly applied) stems.rooted,
    effect.isHierarchical stems.hierarchical⟩

theorem restore_of_revealPhrase
    (tellsApart : cipher.TellsApart known payload.sharedKey payload.iterations)
    (secondKnown : ∀ other, second = some other → known other) {phrase : String}
    (revealed : payload.revealPhrase cipher second = .ok phrase) :
    Phrase.restore phrase = .ok entropy := by
  have under := stems.ruled.under tellsApart
  obtain ⟨admitted, body, text, other, isBody, reads, decoded, spelled⟩ :=
    revealPhrase_eq_ok.mp revealed
  have sameAccess : payload.access cipher [] second = payload.access cipher [] held := by
    cases isLocked : payload.doubleEncrypted with
    | false => rw [access_of_plain isLocked, access_of_plain isLocked]
    | true => rw [under.eq_of_admits tellsApart stems.ruled.isKnown secondKnown isLocked admitted]
  have isSeed := (stems.rooted.seed body isBody).1
  rw [Reads, ← sameAccess, ← Reads] at isSeed
  cases reads.symm.trans isSeed
  rw [Hex.decode_encode] at decoded
  cases decoded
  exact Phrase.restore_of_reveal spelled

theorem legacyXpub {i : Nat} {account : Account} (isAccount : payload.accounts[i]? = some account) :
    ∃ seed pair, Phrase.seedOf entropy = .ok seed ∧
      keys.accountKeys seed .legacy (UInt32.ofNat i) = .ok pair ∧
      account.xpub? .legacy = some pair.xpub := by
  have isCarried : Scheme.legacy ∈ Scheme.allFor payload.version := by
    cases payload.version <;> decide
  obtain ⟨seed, pair, stretched, made, isXpub, _⟩ := stems.rooted.revealXpriv isAccount isCarried
  exact ⟨seed, pair, stretched, made, isXpub⟩

end StemsFrom

/-- What is saved of a payload: the payload itself, or what a change made of it that is given known
second passwords and adds no key as it is given. -/
def Evolves (services : Services) (known : String → Prop) (payload next : Payload) : Prop :=
  next = payload ∨ ∃ transition : Transition, transition.IsGiven known ∧
    (∀ entry, transition = .addImported entry → entry.key = none) ∧
      transition.apply services payload = .ok next

/-- A payload stems from some entropy, as long as the cipher tells the known second passwords
apart. -/
def Traced (payload : Payload) (cipher : Cipher) (keys : KeySource) (known : String → Prop) :
    Prop :=
  0 < payload.iterations → cipher.TellsApart known payload.sharedKey payload.iterations →
    ∃ entropy held, payload.StemsFrom cipher keys known entropy held

theorem Traced.apply (traced : payload.Traced services.cipher services.keys known)
    (inverts : services.cipher.Inverts) (isGiven : transition.IsGiven known)
    (watchOnly : ∀ entry, transition = .addImported entry → entry.key = none)
    (applied : transition.apply services payload = .ok next) :
    next.Traced services.cipher services.keys known := by
  intro positive tellsApart
  obtain ⟨_, sharedKey, iterations⟩ := kept_of_apply applied
  rw [iterations] at positive tellsApart
  rw [sharedKey] at tellsApart
  obtain ⟨entropy, held, stems⟩ := traced positive tellsApart
  exact ⟨entropy, _, stems.change inverts tellsApart rfl rfl isGiven watchOnly applied⟩

theorem Traced.evolves (traced : payload.Traced services.cipher services.keys known)
    (inverts : services.cipher.Inverts) (evolves : Evolves services known payload next) :
    next.Traced services.cipher services.keys known := by
  rcases evolves with rfl | ⟨transition, isGiven, watchOnly, applied⟩
  · exact traced
  · exact traced.apply inverts isGiven watchOnly applied

theorem traced_hierarchical (inverts : cipher.Inverts) {guid sharedKey label : String}
    {iterations : UInt32} (made : hierarchical keys guid sharedKey label entropy iterations =
      .ok payload) :
    payload.Traced cipher keys known := by
  intro positive _
  obtain ⟨_, edit⟩ := exists_edit_of_hierarchical made
  obtain ⟨_, _, iterations, _⟩ := edit.kept
  rw [iterations] at positive
  exact ⟨entropy, none, stemsFrom_hierarchical inverts positive made⟩

end Payload

/-! ## What commands save -/

/-- A change that sets no second password is given known ones, if it is given one at all. -/
theorem Transition.isGiven_of_leaves (setsNone : transition.leaves none = none)
    (isKnown : ∀ other, transition.given?.join = some other → known other) :
    transition.IsGiven known := by
  refine ⟨fun other isAsked => isKnown other (isAsked ▸ rfl), fun other isSet => ?_⟩
  subst isSet
  cases setsNone

namespace Wallet

variable {wallet : Wallet} {workplace : Workplace} {store : Store} {draw : Draw} {command : Command}
  {synchronizer : Synchronizer} {main later : Option String} {announce : Bool}

/-- The second password that the command is given, if it is given one. -/
def Command.second? : Command → Option String
  | upgradeToAccounts _ second | upgradeToSegwit second | addAccount _ second => second
  | importKey _ _ second | setKey _ second => second
  | enableSecond second | disableSecond second => some second
  | _ => none

def Command.IsGiven (known : String → Prop) (command : Command) : Prop :=
  ∀ second, command.second? = some second → known second

/-- What a command makes of a payload and its main password: it leaves both, or renews the main
password, or changes the payload. The change is given known second passwords, sets none that is the
main password, and adds no key as it is given. -/
inductive Command.Turns (services : Services) (known : String → Prop) (payload : Payload)
    (main : Option String) : Command → Payload → Option String → Prop
  | again {command : Command} : Turns services known payload main command payload main
  | renewed (password : String) :
      Turns services known payload main (.updatePassword password) payload (some password)
  | changed {command : Command} {next : Payload} {transition : Transition}
      (isGiven : transition.IsGiven known) (differs : ∀ second, transition = .setSecond second →
        main ≠ some second)
      (watchOnly : ∀ entry, transition = .addImported entry → entry.key = none)
      (applied : transition.apply services payload = .ok next) : Turns services known payload main
      command next main

theorem Command.Turns.evolves (turns : command.Turns services known payload main next later) :
    payload.Evolves services known next := by
  cases turns with
  | again => exact .inl rfl
  | renewed => exact .inl rfl
  | changed isGiven _ watchOnly applied => exact .inr ⟨_, isGiven, watchOnly, applied⟩

theorem Command.Turns.kept (turns : command.Turns services known payload main next later) :
    next.sharedKey = payload.sharedKey ∧ next.iterations = payload.iterations := by
  cases turns with
  | again => exact ⟨rfl, rfl⟩
  | renewed => exact ⟨rfl, rfl⟩
  | changed _ _ _ applied =>
    exact (kept_of_apply applied).2

theorem Command.Turns.main_stays (turns : command.Turns services known payload main next later)
    (noUpdate : ∀ password, command ≠ .updatePassword password) : later = main := by
  cases turns with
  | again => rfl
  | renewed password => exact absurd rfl (noUpdate password)
  | changed => rfl

/-- The call is a save, and what it saves is what the command makes of what is committed. -/
def Command.Plans (command : Command) (services : Services) (known : String → Prop)
    (synchronizer : Synchronizer) (call : Call) : Prop :=
  ∃ replacement, call = .replace replacement ∧ ∀ plan, replacement.plan synchronizer = .ok plan →
    command.Turns services known plan.previous.payload synchronizer.password plan.candidate
    (some plan.password)

theorem plans_mutate {build : Payload → String → Except WalletError Payload}
    (builds : ∀ committed main candidate, synchronizer.committed = some committed →
      build committed.payload main = .ok candidate →
        command.Turns services known committed.payload (some main) candidate (some main)) :
    command.Plans services known synchronizer (.replace (.mutate announce build)) := by
  refine ⟨_, rfl, fun plan planned => ?_⟩
  obtain ⟨previous, isCurrent, planned⟩ := bind_eq_ok.mp planned
  obtain ⟨main, isMain, planned⟩ := bind_eq_ok.mp planned
  obtain ⟨candidate, built, planned⟩ := bind_eq_ok.mp planned
  cases planned
  rw [Synchronizer.mainPassword_eq_ok isMain]
  exact builds previous main candidate (Synchronizer.current_eq_ok isCurrent) built

theorem plans_again : command.Plans services known synchronizer (.again announce) := by
  refine plans_mutate fun _ _ _ _ built => ?_
  cases built
  exact .again

theorem plans_change (setsNone : transition.leaves none = none)
    (isKnown : ∀ other, transition.given?.join = some other → known other)
    (watchOnly : ∀ entry, transition = .addImported entry → entry.key = none) :
    command.Plans services known synchronizer (.change services announce transition) := by
  have isGiven := Transition.isGiven_of_leaves setsNone isKnown
  refine plans_mutate fun _ _ _ _ applied => .changed isGiven ?_ watchOnly applied
  rintro second rfl
  cases setsNone

theorem plans_rewrap {password : String} :
    (Command.updatePassword password).Plans services known synchronizer
      (.replace (.rewrap password)) := by
  refine ⟨_, rfl, fun plan planned => ?_⟩
  obtain ⟨_, _, planned⟩ := bind_eq_ok.mp planned
  cases planned
  exact .renewed password

theorem plans_imported {wif : String} {label second : Option String} {imported : Payload}
    (isKnown : ∀ other, second = some other → known other)
    (isImported : wallet.imported? workplace wif label second = some imported) :
    command.Plans workplace.services known wallet.synchronizer
      (.replace (.mutate announce fun _ _ => .ok imported)) := by
  obtain ⟨device, payload, entry, _, isPayload, made⟩ := imported?_eq_some isImported
  refine plans_mutate fun committed main candidate isCommitted built => ?_
  cases built
  cases (payload_of_committed isCommitted).symm.trans isPayload
  have applied : (Transition.importKey wif label device second).apply workplace.services
      committed.payload = .ok imported := map_eq_ok.mpr ⟨_, made, rfl⟩
  have isGiven : (Transition.importKey wif label device second).IsGiven known :=
    Transition.isGiven_of_leaves rfl isKnown
  exact .changed isGiven (fun _ isOther => nomatch isOther) (fun _ isOther =>
    nomatch isOther) applied

theorem plans_of_call (goesOn : command.GoesOn) (isGiven : command.IsGiven known) {call : Call}
    (isCall : wallet.call? workplace draw command = some call) :
    command.Plans workplace.services known wallet.synchronizer call := by
  cases command
  case create => exact goesOn.elim
  case recover => exact goesOn.elim
  case load => exact goesOn.elim
  case loadText => exact goesOn.elim
  case save => cases isCall; exact plans_again
  case announce => cases isCall; exact plans_again
  case updatePassword =>
    simp only [call?] at isCall
    split at isCall
    · cases isCall
    · cases isCall
      exact plans_rewrap
  case enableSecond second =>
    cases isCall
    refine plans_mutate fun committed main candidate _ built => ?_
    split at built
    · cases built
    · rename_i unlike
      have isKnown : (Transition.setSecond second).IsGiven known := by
        refine ⟨fun _ isAsked => (by cases isAsked), ?_⟩
        rintro _ ⟨⟩
        exact isGiven second rfl
      refine .changed isKnown ?_ (fun _ isOther => by cases isOther) built
      rintro _ ⟨⟩ same
      exact unlike (Option.some.inj same)
  case importKey =>
    obtain ⟨_, isImported, rfl⟩ := Option.map_eq_some_iff.mp isCall
    exact plans_imported isGiven isImported
  case setKey =>
    obtain ⟨_, isImported, rfl⟩ := Option.map_eq_some_iff.mp isCall
    exact plans_imported isGiven isImported
  case watch =>
    cases isCall
    refine plans_change rfl isGiven ?_
    rintro _ ⟨⟩
    rfl
  case reserve =>
    simp only [call?, Option.bind_eq_bind, Option.bind_eq_some_iff] at isCall
    obtain ⟨_, _, _, _, isCall⟩ := isCall
    split at isCall
    · cases isCall
    · cases isCall
      exact plans_change rfl isGiven fun _ isOther => by cases isOther
  case nextReceiveAndReserve =>
    obtain ⟨_, _, rfl⟩ := Option.map_eq_some_iff.mp isCall
    exact plans_change rfl isGiven fun _ isOther => by cases isOther
  -- The others are each one change, which is given what the command is given.
  all_goals
    cases isCall <;>
      exact plans_change rfl isGiven fun _ isOther => by cases isOther

/-- What is committed after a command that goes on, and the main password, is what the command makes
of what there was before it. -/
theorem turns_of_perform (store : Store) (goesOn : command.GoesOn) (isGiven : command.IsGiven known)
    {committed : Committed}
    (isCommitted : (wallet.perform workplace store draw command).wallet.synchronizer.committed =
      some committed) :
    ∃ old, wallet.synchronizer.committed = some old ∧
      command.Turns workplace.services known old.payload wallet.synchronizer.password
        committed.payload (wallet.perform workplace store draw
          command).wallet.synchronizer.password := by
  cases isCall : wallet.call? workplace draw command with
  | none =>
    have rests := rests_of_noCall store isCall
    have notForgotten : (wallet.perform workplace store draw
        command).wallet.synchronizer.committed ≠ none :=
      fun nothing => nomatch nothing.symm.trans isCommitted
    have sameCommitted := rests.committed.resolve_right notForgotten
    have sameMain := rests.password.resolve_right notForgotten
    rw [sameMain]
    exact ⟨committed, sameCommitted ▸ isCommitted, .again⟩
  | some call =>
    rw [(perform_of_call store isCall).synchronizer] at isCommitted ⊢
    obtain ⟨replacement, rfl, turns⟩ := plans_of_call goesOn isGiven isCall
    have outcome :=
      (Call.replace replacement).outcome wallet.synchronizer workplace.surroundings store
    generalize (Call.replace replacement).perform wallet.synchronizer workplace.surroundings
      store = attempt at outcome isCommitted ⊢
    cases outcome with
    | failed => exact ⟨committed, isCommitted, .again⟩
    | loaded _ source =>
      rcases source with isCall | ⟨_, _, _, isCall, _⟩
      · cases isCall
      · cases isCall
    | inserted isCall => cases isCall
    | updated isCall planned samePayload _ _ _ _ saved =>
      cases isCall
      rw [saved.attempt_eq] at isCommitted ⊢
      cases isCommitted
      exact ⟨_, (Replacement.plan_eq_ok planned).1, samePayload ▸ turns _ planned⟩

/-! ## Wallets -/

theorem holds_of_create {holds : Payload → Prop} {label email password : String}
    {committed : Committed} (news : ∀ {entropy : Bytes} {payload : Payload},
      Payload.hierarchical workplace.services.keys draw.guid draw.sharedKey
      label entropy workplace.config.iterations = .ok payload → holds payload)
    (isCommitted : (initial.create workplace store draw label email
      password).wallet.synchronizer.committed = some committed) : holds committed.payload := by
  simp only [create] at isCommitted
  split at isCommitted
  · cases isCommitted
  · rename_i payload made
    rw [(stored_of_saveNew isCommitted).1]
    exact news made

/-- What holds of a new payload and is kept when an account is added holds of the payload of a
wallet that was recovered. -/
theorem holds_of_recover {holds : Payload → Prop} {phrase label email password : String}
    {committed : Committed} (news : ∀ {entropy : Bytes} {payload : Payload},
      Payload.hierarchical workplace.services.keys draw.guid draw.sharedKey
      label entropy workplace.config.iterations = .ok payload → holds payload)
    (adds : ∀ {payload next : Payload} {label : String}, holds payload →
      (Transition.addAccount label none).apply workplace.services payload = .ok next → holds next)
    (isCommitted : (initial.recover workplace store draw phrase label email
      password).wallet.synchronizer.committed = some committed) : holds committed.payload := by
  unfold recover at isCommitted
  dsimp only at isCommitted
  split at isCommitted
  · cases isCommitted
  · rename_i payload restored
    obtain ⟨entropy, _, made⟩ := bind_eq_ok.mp restored
    have isNew := news made
    split at isCommitted
    · cases isCommitted
    · rename_i search ran
      rw [(stored_of_saveNew isCommitted).1]
      exact (Search.Both.run adds ⟨isNew, isNew⟩ ran).kept

theorem isGiven_addAccount (label : String) : (Transition.addAccount label none).IsGiven known :=
  Transition.isGiven_of_leaves rfl fun _ isAsked => nomatch isAsked

/-- The wallets that come after a new, a recovered or a loaded one, as far as they keep to one
cipher and one source of keys and are given no second password but known ones. What is loaded is a
payload that such a wallet has stored. -/
inductive Stems (cipher : Cipher) (keys : KeySource) (known : String → Prop) : Wallet → Prop
  | created {workplace : Workplace} (store : Store) (draw : Draw) (label email password : String)
      (sameCipher : workplace.services.cipher = cipher)
      (sameKeys : workplace.services.keys = keys) :
      Stems cipher keys known (initial.create workplace store draw label email password).wallet
  | recovered {workplace : Workplace} (store : Store) (draw : Draw)
      (phrase label email password : String) (sameCipher : workplace.services.cipher = cipher)
      (sameKeys : workplace.services.keys = keys) :
      Stems cipher keys known (initial.recover workplace store draw phrase label email
        password).wallet
  | loaded {source : Wallet} {workplace : Workplace} {store : Store}
      {guid sharedKey password : String} {payload : Payload}
      (stems : Stems cipher keys known source) (stored : source.payload = .ok payload)
      (isLoaded : (initial.load workplace store guid sharedKey password).wallet.payload =
        .ok payload) :
      Stems cipher keys known (initial.load workplace store guid sharedKey password).wallet
  | performed {wallet : Wallet} {workplace : Workplace} (store : Store) (draw : Draw)
      {command : Command} (stems : Stems cipher keys known wallet)
      (sameCipher : workplace.services.cipher = cipher)
      (sameKeys : workplace.services.keys = keys) (goesOn : command.GoesOn)
      (isGiven : command.IsGiven known) :
      Stems cipher keys known (wallet.perform workplace store draw command).wallet

theorem Stems.reached (stems : Stems cipher keys known wallet) : Reached keys wallet := by
  induction stems with
  | created store draw label email password _ sameKeys =>
    exact .created store draw label email password sameKeys
  | recovered store draw phrase label email password _ sameKeys =>
    exact .recovered store draw phrase label email password sameKeys
  | loaded _ stored isLoaded ih => exact .loaded ih stored isLoaded
  | performed store draw _ _ sameKeys goesOn _ ih => exact .performed store draw ih sameKeys goesOn

theorem Stems.traced (stems : Stems cipher keys known wallet) (inverts : cipher.Inverts)
    {committed : Committed} (isCommitted : wallet.synchronizer.committed = some committed) :
    committed.payload.Traced cipher keys known := by
  induction stems generalizing committed with
  | created store draw label email password _ sameKeys =>
    subst sameKeys
    exact holds_of_create (Payload.traced_hierarchical inverts) isCommitted
  | recovered store draw phrase label email password sameCipher sameKeys =>
    subst sameCipher sameKeys
    refine holds_of_recover (Payload.traced_hierarchical inverts) (fun traced added => ?_)
      isCommitted
    exact traced.apply inverts (isGiven_addAccount _) (fun _ isOther => nomatch isOther) added
  | loaded stems stored isLoaded ih =>
    obtain ⟨old, wasCommitted, rfl⟩ := payload_eq_ok stored
    have same := Except.ok.inj ((payload_of_committed isCommitted).symm.trans isLoaded)
    rw [same]
    exact ih wasCommitted
  | performed store draw stems sameCipher sameKeys goesOn isGiven ih =>
    subst sameCipher sameKeys
    obtain ⟨old, wasCommitted, turns⟩ := turns_of_perform store goesOn isGiven isCommitted
    exact (ih wasCommitted).evolves inverts turns.evolves

theorem Stems.stemsFrom (stems : Stems cipher keys known wallet) (inverts : cipher.Inverts)
    (isPayload : wallet.payload = .ok payload)
    (tellsApart : cipher.TellsApart known payload.sharedKey payload.iterations) :
    ∃ entropy held, payload.StemsFrom cipher keys known entropy held := by
  obtain ⟨committed, isCommitted, rfl⟩ := payload_eq_ok isPayload
  have valid := stems.reached.arises.valid committed isCommitted
  exact stems.traced inverts isCommitted (Payload.positive_of_valid valid) tellsApart

end Wallet

end Coffer
