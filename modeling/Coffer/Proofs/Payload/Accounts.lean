import Coffer.Payload.Upgrade
import Coffer.Proofs.Error
/-!
# Keys of new accounts

A new account is derived scheme by scheme, and an upgrade derives one more scheme for each account
that lacks it. Nothing that an account has is dropped on the way, because the schemes differ.
-/

namespace Coffer

theorem Derivation.protect_eq_ok {fields : Option FieldCipher} {scheme : Scheme}
    {keys : AccountKeys} {derivation : Derivation} :
    protect fields scheme keys = .ok derivation ↔
      derivation.scheme = scheme ∧ derivation.xpub = keys.xpub ∧
        Secret.protect fields keys.xpriv = .ok derivation.xpriv := by
  unfold protect
  obtain ⟨ownScheme, xpriv, xpub⟩ := derivation
  cases Secret.protect fields keys.xpriv with
  | error cause => simp
  | ok secret => grind

/-- The keys of a derivation are those of its account under its scheme, the private one
protected. -/
theorem Payload.derive_eq_ok {services : Services} {fields : Option FieldCipher} {seed : Bytes}
    {number : UInt32} {scheme : Scheme} {derivation : Derivation} :
    derive services fields seed number scheme = .ok derivation ↔
      derivation.scheme = scheme ∧ ∃ keys, services.keys.accountKeys seed scheme number = .ok keys ∧
        derivation.xpub = keys.xpub ∧ Secret.protect fields keys.xpriv = .ok derivation.xpriv := by
  simp only [derive, bind_eq_ok, liftError_eq_ok, Derivation.protect_eq_ok]
  constructor
  · rintro ⟨keys, derived, ownScheme, made⟩
    exact ⟨ownScheme, keys, derived, made⟩
  · rintro ⟨ownScheme, keys, derived, made⟩
    exact ⟨keys, derived, ownScheme, made⟩

theorem Account.withDerivation_of_new {account : Account} {derivation : Derivation}
    (isNew : derivation.scheme ∉ account.derivations.map Derivation.scheme) :
    account.withDerivation derivation =
      { account with
        defaultScheme := derivation.scheme
        derivations := account.derivations ++ [derivation] } := by
  have others : account.derivations.filter (fun other => other.scheme ≠ derivation.scheme) =
      account.derivations := by
    rw [List.filter_eq_self]
    intro other isIn
    have differs : other.scheme ≠ derivation.scheme :=
      fun same => isNew (same ▸ List.mem_map_of_mem isIn)
    simp [differs]
  rw [withDerivation, others]

theorem Account.xpub?_eq_none {account : Account} {scheme : Scheme} :
    account.xpub? scheme = none ↔ scheme ∉ account.derivations.map Derivation.scheme := by
  simp [xpub?, derivation?]

namespace Payload

variable {services : Services} {fields : Option FieldCipher} {seed : Bytes} {number : UInt32}

/-- Deriving further schemes puts one derivation for each of them behind those that are there. -/
theorem deriveAll_eq_ok {schemes : List Scheme} {account result : Account}
    (distinct : (account.derivations.map Derivation.scheme ++ schemes).Nodup)
    (derived : deriveAll services fields seed number schemes account = .ok result) :
    ∃ more, result = { account with
        defaultScheme := schemes.getLastD account.defaultScheme
        derivations := account.derivations ++ more } ∧
      more.map Derivation.scheme = schemes ∧
      ∀ derivation ∈ more, derive services fields seed number derivation.scheme =
          .ok derivation := by
  induction schemes generalizing account with
  | nil =>
    cases derived
    exact ⟨[], by simp⟩
  | cons scheme others ih =>
    obtain ⟨derivation, made, derived⟩ := bind_eq_ok.mp derived
    have ownScheme : derivation.scheme = scheme := (derive_eq_ok.mp made).1
    have isNew : derivation.scheme ∉ account.derivations.map Derivation.scheme := by
      rw [ownScheme]
      intro isIn
      exact (List.nodup_append.mp distinct).2.2 scheme isIn scheme List.mem_cons_self rfl
    rw [Account.withDerivation_of_new isNew] at derived
    have stillDistinct : ((account.derivations ++ [derivation]).map Derivation.scheme ++
        others).Nodup := by
      rw [List.map_append, List.append_assoc, List.map_singleton, ownScheme]
      exact distinct
    obtain ⟨more, rfl, schemes, each⟩ := ih stillDistinct derived
    refine ⟨derivation :: more, ?_, ?_, ?_⟩
    · simp only [List.getLastD_cons, ownScheme, List.append_assoc, List.singleton_append]
    · rw [List.map_cons, ownScheme, schemes]
    · intro other isIn
      rcases List.mem_cons.mp isIn with rfl | later
      · rw [ownScheme]
        exact made
      · exact each other later

theorem addSegwit_eq_ok {position : Nat} {account next : Account}
    (upgraded : addSegwit services fields seed position account = .ok next) :
    ((account.xpub? .segwit).isSome = true ∧ next = account) ∨
      (account.xpub? .segwit = none ∧ ∃ number derivation, accountNumber? position = some number ∧
        derive services fields seed number .segwit = .ok derivation ∧
          next = account.withDerivation derivation) := by
  unfold addSegwit at upgraded
  split at upgraded
  · rename_i hasSegwit
    cases upgraded
    exact .inl ⟨hasSegwit, rfl⟩
  · rename_i lacksSegwit
    split at upgraded
    · cases upgraded
    · rename_i number isNumber
      split at upgraded
      · cases upgraded
      · rename_i keys derived
        split at upgraded
        · cases upgraded
        · rename_i derivation made
          cases upgraded
          refine .inr ⟨by simpa using lacksSegwit, number, derivation, isNumber, ?_, rfl⟩
          simp only [derive, derived, liftError, bind_ok]
          exact made

theorem addSegwitFrom_eq_ok {position : Nat} {accounts next : List Account}
    (upgraded : addSegwitFrom services fields seed position accounts = .ok next) :
    next.length = accounts.length ∧ ∀ i account, accounts[i]? = some account →
      ∃ later, next[i]? = some later ∧ addSegwit services fields seed (position + i) account =
        .ok later := by
  induction accounts generalizing position next with
  | nil =>
    cases upgraded
    exact ⟨rfl, fun _ _ isIn => nomatch isIn⟩
  | cons first others ih =>
    obtain ⟨own, upgradedOwn, upgraded⟩ := bind_eq_ok.mp upgraded
    obtain ⟨rest, upgradedRest, upgraded⟩ := bind_eq_ok.mp upgraded
    cases upgraded
    obtain ⟨length, each⟩ := ih upgradedRest
    refine ⟨congrArg (· + 1) length, fun i account isAccount => ?_⟩
    cases i with
    | zero =>
      cases isAccount
      exact ⟨own, rfl, upgradedOwn⟩
    | succ i =>
      obtain ⟨later, isLater, upgradedLater⟩ := each i account isAccount
      rw [Nat.add_right_comm] at upgradedLater
      exact ⟨later, isLater, upgradedLater⟩

/-- The body of an upgrade has its seed and an upgraded account for each of its accounts. -/
theorem upgradeBody_eq_ok {body next : Body}
    (upgraded : upgradeBody services fields body = .ok next) :
    ∃ seed accounts, body.revealSeed fields = .ok seed ∧
      addSegwitFrom services fields seed 0 body.accounts = .ok accounts ∧
        next = { body with accounts } := by
  obtain ⟨seed, revealed, upgraded⟩ := bind_eq_ok.mp upgraded
  obtain ⟨accounts, upgradedAll, upgraded⟩ := bind_eq_ok.mp upgraded
  cases upgraded
  exact ⟨seed, accounts, revealed, upgradedAll, rfl⟩

theorem head_of_upgradeBodies {bodies next : List Body}
    (upgraded : bodies.mapM (upgradeBody services fields) = .ok next) :
    (bodies = [] ∧ next = []) ∨ ∃ body others later rest, bodies = body :: others ∧
      next = later :: rest ∧ upgradeBody services fields body = .ok later := by
  cases bodies with
  | nil =>
    cases upgraded
    exact .inl ⟨rfl, rfl⟩
  | cons body others =>
    rw [List.mapM_cons] at upgraded
    obtain ⟨later, upgradedFirst, upgraded⟩ := bind_eq_ok.mp upgraded
    obtain ⟨rest, _, upgraded⟩ := bind_eq_ok.mp upgraded
    cases upgraded
    exact .inr ⟨body, others, later, rest, rfl, rfl, upgradedFirst⟩

end Payload

/-- The first body of a wallet has its entropy, protected, and one account with the keys of number
zero. -/
theorem Body.ofEntropy_eq_ok {services : Services} {fields : Option FieldCipher} {entropy : Bytes}
    {label : String} {scheme : Scheme} {body : Body}
    (made : ofEntropy services.keys fields entropy label scheme = .ok body) :
    ∃ seed derivation, Phrase.seedOf entropy = .ok seed ∧
      Secret.protect fields (Hex.encode entropy) = .ok body.seed ∧
      Payload.derive services fields seed 0 scheme = .ok derivation ∧
      body.accounts = [.ofDerivation label derivation] := by
  obtain ⟨seed, stretched, made⟩ := bind_eq_ok.mp made
  obtain ⟨keys, derived, made⟩ := bind_eq_ok.mp made
  obtain ⟨secret, closed, made⟩ := bind_eq_ok.mp made
  obtain ⟨derivation, isProtected, made⟩ := bind_eq_ok.mp made
  cases made
  refine ⟨seed, derivation, liftError_eq_ok.mp stretched, closed, ?_, rfl⟩
  rw [Payload.derive, derived]
  exact isProtected

end Coffer
