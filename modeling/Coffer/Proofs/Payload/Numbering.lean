import Mathlib.Data.List.Nodup
import Coffer.Proofs.Payload.Reading
/-!
# Accounts and their numbers

The number of an account in the tree of keys is nowhere stored: it is the position of the account.
Every change that makes keys makes them for the position of their account, and none moves an
account, so that what holds of each derivation under the number that it was made for holds under the
position that it has.
-/

namespace Coffer

variable {services : Services} {payload next : Payload} {held left : Option String}
  {transition : Transition} {change : Secret → Secret} {holds : UInt32 → Derivation → Prop}
  {number : UInt32} {account : Account}

/-- An account carries the schemes of a version, the newest as its default, and something holds of
the derivation of each under the number of the account. -/
structure Account.Carries (version : Version) (holds : UInt32 → Derivation → Prop) (number : UInt32)
    (account : Account) : Prop where
  schemes : account.derivations.map Derivation.scheme = Scheme.allFor version
  defaultScheme : account.defaultScheme = Scheme.defaultFor version
  each : ∀ derivation ∈ account.derivations, holds number derivation

/-- Every account carries the schemes of the version under the number of its position. -/
def Payload.Numbered (holds : UInt32 → Derivation → Prop) (payload : Payload) : Prop :=
  ∀ (i : Nat) (account : Account), payload.accounts[i]? = some account →
    ∃ number, accountNumber? i = some number ∧ account.Carries payload.version holds number

/-- The seeds that a change makes keys from: that of the body in use, or the one that it brings. -/
def Transition.DrawsOn (services : Services) (payload : Payload) (held : Option String)
    (transition : Transition) (seed : Bytes) : Prop :=
  (∃ body, payload.body? = some body ∧
    body.revealSeed (payload.access services.cipher services.seed held) = .ok seed) ∨
  ∃ entropy label second, transition = .upgradeToAccounts entropy label second ∧
    Phrase.seedOf entropy = .ok seed

namespace Account

/-- A derivation under a scheme that an account carries is one for the number of the account. -/
theorem Carries.derivation? {version : Version} (carries : account.Carries version holds number)
    {scheme : Scheme} (isCarried : scheme ∈ Scheme.allFor version) :
    ∃ derivation, account.derivation? scheme = some derivation ∧ derivation ∈ account.derivations ∧
      derivation.scheme = scheme ∧ holds number derivation := by
  rw [← carries.schemes, List.mem_map] at isCarried
  obtain ⟨carried, isIn, isScheme⟩ := isCarried
  cases found : account.derivation? scheme with
  | none => exact absurd (by simp [isScheme]) (List.find?_eq_none.mp found carried isIn)
  | some derivation =>
    have isFirst := List.mem_of_find?_eq_some found
    have hasScheme := List.find?_some found
    exact ⟨derivation, rfl, isFirst, of_decide_eq_true hasScheme, carries.each derivation isFirst⟩

theorem Carries.defaultXpub? {version : Version} (carries : account.Carries version holds number) :
    ∃ xpub, account.defaultXpub? = some xpub := by
  have isCarried : Scheme.defaultFor version ∈ Scheme.allFor version := by cases version <;> decide
  obtain ⟨derivation, found, _⟩ := carries.derivation? isCarried
  exact ⟨derivation.xpub, by rw [Account.defaultXpub?, carries.defaultScheme, xpub?, found,
    Option.map_some]⟩

theorem Carries.xpub?_of_mem {version : Version} (carries : account.Carries version holds number)
    {derivation : Derivation} (isOwn : derivation ∈ account.derivations) :
    account.xpub? derivation.scheme = some derivation.xpub := by
  have isCarried : derivation.scheme ∈ Scheme.allFor version :=
    carries.schemes ▸ List.mem_map_of_mem isOwn
  have distinct : (account.derivations.map Derivation.scheme).Nodup := by
    rw [carries.schemes]
    cases version <;> decide
  obtain ⟨other, found, isOther, sameScheme, _⟩ := carries.derivation? isCarried
  rw [xpub?, found, List.inj_on_of_nodup_map distinct isOther isOwn sameScheme, Option.map_some]

/-- An account that carries the legacy scheme alone carries both after it was given segwit keys of
its number. -/
theorem Carries.withSegwit (carries : account.Carries .v3 holds number) {derivation : Derivation}
    (isSegwit : derivation.scheme = .segwit) (isOwn : holds number derivation) :
    (account.withDerivation derivation).Carries .v4 holds number := by
  have isNew : derivation.scheme ∉ account.derivations.map Derivation.scheme := by
    rw [carries.schemes, isSegwit]
    decide
  rw [withDerivation_of_new isNew]
  constructor
  · rw [List.map_append, carries.schemes, List.map_singleton, isSegwit]
    rfl
  · exact isSegwit
  · intro other isIn
    rcases List.mem_append.mp isIn with wasThere | isAdded
    · exact carries.each other wasThere
    · rw [List.mem_singleton.mp isAdded]
      exact isOwn

end Account

namespace Payload

theorem numbered_withBody {body new : Body} (isBody : payload.body? = some body)
    (numbered : payload.Numbered holds)
    (accounts : ∀ (i : Nat) (account : Account), new.accounts[i]? = some account →
      body.accounts[i]? = some account ∨
        ∃ number, accountNumber? i = some number ∧ account.Carries payload.version holds number) :
    (payload.withBody new).Numbered holds := by
  intro i account isAccount
  rcases accounts i account isAccount with wasThere | carries
  · exact numbered i account (accounts_of_body isBody ▸ wasThere)
  · exact carries

theorem numbered_recast {later : UInt32 → Derivation → Prop} {flag : Bool} {hash : Option String}
    (numbered : payload.Numbered holds)
    (carried : ∀ number derivation, derivation.xpriv ∈ payload.secrets → holds number derivation →
      later number (derivation.recast change)) :
    (payload.recast change flag hash).Numbered later := by
  intro i account isAccount
  rw [accounts_recast, List.getElem?_map, Option.map_eq_some_iff] at isAccount
  obtain ⟨old, isOld, rfl⟩ := isAccount
  obtain ⟨number, isNumber, carries⟩ := numbered i old isOld
  refine ⟨number, isNumber, ?_, carries.defaultScheme, fun derivation isIn => ?_⟩
  · rw [Account.recast, List.map_map]
    exact carries.schemes
  · obtain ⟨derivation, wasThere, rfl⟩ := List.mem_map.mp isIn
    have isSecret := xpriv_mem_secrets (List.mem_of_getElem? isOld) wasThere
    exact carried number derivation isSecret (carries.each derivation wasThere)

end Payload

/-- Each account of an upgraded payload is one that was there, upgraded under its position. -/
theorem Payload.addSegwit_of_upgradeBodies {fields : Option FieldCipher} {bodies : List Body}
    {version : Version} {i : Nat}
    (upgraded : payload.bodies.mapM (upgradeBody services fields) = .ok bodies)
    (isAccount : (Payload.accounts { payload with bodies, version })[i]? = some account) :
    ∃ body seed old, payload.body? = some body ∧ body.revealSeed fields = .ok seed ∧
      payload.accounts[i]? = some old ∧ addSegwit services fields seed i old = .ok account := by
  rcases head_of_upgradeBodies upgraded with ⟨_, rfl⟩ | ⟨body, others, later, rest, sameBodies,
    rfl, upgradedBody⟩
  · cases isAccount
  · have isBody := body?_of_bodies sameBodies
    obtain ⟨seed, accounts, revealed, upgradedAll, rfl⟩ := upgradeBody_eq_ok upgradedBody
    obtain ⟨length, each⟩ := addSegwitFrom_eq_ok upgradedAll
    rw [accounts_of_body rfl] at isAccount
    have inRange : i < body.accounts.length := length ▸ (List.getElem?_eq_some_iff.mp isAccount).1
    obtain ⟨after, isAfter, upgradedOne⟩ := each i _ (List.getElem?_eq_getElem inRange)
    cases isAccount.symm.trans isAfter
    rw [Nat.zero_add] at upgradedOne
    refine ⟨body, seed, _, isBody, revealed, ?_, upgradedOne⟩
    rw [accounts_of_body isBody]
    exact List.getElem?_eq_getElem inRange

/-- Accounts that are given segwit keys of their numbers carry both schemes under them. -/
theorem Payload.numbered_upgradeBodies {fields : Option FieldCipher} {bodies : List Body}
    (isOld : payload.version = .v3)
    (upgraded : payload.bodies.mapM (upgradeBody services fields) = .ok bodies)
    (numbered : payload.Numbered holds)
    (derived : ∀ seed number derivation body, payload.body? = some body →
      body.revealSeed fields = .ok seed →
      derive services fields seed number derivation.scheme = .ok derivation →
        holds number derivation) :
    Payload.Numbered holds { payload with bodies, version := .v4 } := by
  intro i account isAccount
  obtain ⟨body, seed, old, isBody, revealed, wasThere, upgradedOne⟩ :=
    addSegwit_of_upgradeBodies upgraded isAccount
  obtain ⟨number, isNumber, carries⟩ := numbered i old wasThere
  rw [isOld] at carries
  refine ⟨number, isNumber, ?_⟩
  rcases addSegwit_eq_ok upgradedOne with
    ⟨hasSegwit, _⟩ | ⟨_, own, derivation, isOwn, isDerived, rfl⟩
  · -- An account of the third version carries the legacy scheme alone.
    have lacking : old.xpub? .segwit = none := by
      rw [Account.xpub?_eq_none, carries.schemes]
      decide
    rw [lacking] at hasSegwit
    cases hasSegwit
  · cases isNumber.symm.trans isOwn
    have ⟨isSegwit, _⟩ := derive_eq_ok.mp isDerived
    exact carries.withSegwit isSegwit
      (derived seed number derivation body isBody revealed (isSegwit ▸ isDerived))

/-- An edit keeps every account under the number of its position, as long as what it derives is for
that number. -/
theorem Edit.numbered (edit : Edit services payload held transition next)
    (numbered : payload.Numbered holds)
    (derived : ∀ seed number derivation, transition.DrawsOn services payload held seed →
      Payload.derive services (payload.access services.cipher services.seed held) seed number
        derivation.scheme = .ok derivation → holds number derivation) : next.Numbered holds := by
  cases edit with
  | @account body index old new isBody isOld derivations defaultScheme =>
    refine Payload.numbered_withBody isBody numbered fun i account isAccount => ?_
    by_cases own : index.toNat = i
    · subst own
      rw [List.getElem?_set_self (List.getElem?_eq_some_iff.mp isOld).1] at isAccount
      cases isAccount
      obtain ⟨number, isNumber, carries⟩ :=
        numbered index.toNat old (Payload.accounts_of_body isBody ▸ isOld)
      exact .inr ⟨number, isNumber, derivations ▸ carries.schemes,
        defaultScheme.trans carries.defaultScheme, derivations ▸ carries.each⟩
    · rw [List.getElem?_set_ne own] at isAccount
      exact .inl isAccount
  | body isBody => exact Payload.numbered_withBody isBody numbered fun i account => .inl
  | @added body seed number fresh isBody revealed isNumber schemes defaultScheme each =>
    refine Payload.numbered_withBody isBody numbered fun i account isAccount => ?_
    rw [List.getElem?_append] at isAccount
    split at isAccount
    · exact .inl isAccount
    · rw [List.getElem?_singleton] at isAccount
      split at isAccount
      · cases isAccount
        have isLast : i = body.accounts.length := by omega
        exact .inr ⟨number, isLast ▸ isNumber, schemes, defaultScheme, fun derivation isIn =>
          derived seed number derivation (.inl ⟨body, isBody, revealed⟩) (each derivation isIn)⟩
      · cases isAccount
  | watched => exact numbered
  | entry => exact numbered
  | imported => exact numbered
  | notes => exact numbered
  | @rooted entropy label second body isChange _ made =>
    obtain ⟨seed, derivation, stretched, _, isDerived, accounts⟩ := Body.ofEntropy_eq_ok made
    have ⟨isLegacy, _⟩ := Payload.derive_eq_ok.mp isDerived
    have isOwn : holds 0 derivation :=
      derived seed 0 derivation (.inr ⟨entropy, label, second, isChange, stretched⟩)
        (isLegacy ▸ isDerived)
    intro i account isAccount
    rw [Payload.accounts_of_body rfl, accounts, List.getElem?_singleton] at isAccount
    split at isAccount
    · rename_i isFirst
      cases isAccount
      refine ⟨0, isFirst ▸ rfl, ?_, isLegacy, fun other isIn => ?_⟩
      · rw [Account.ofDerivation, List.map_singleton, isLegacy]
        rfl
      · rw [List.mem_singleton.mp isIn]
        exact isOwn
    · cases isAccount
  | segwit isOld upgraded =>
    exact Payload.numbered_upgradeBodies isOld upgraded numbered
        fun seed number derivation body isBody revealed =>
      derived seed number derivation (.inl ⟨body, isBody, revealed⟩)

end Coffer
