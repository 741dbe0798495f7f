import Coffer.BalanceCache
import Coffer.Proofs.Payload.Numbering
import Coffer.Proofs.Payload.Upkeep
import Coffer.Proofs.Toy
import Coffer.Proofs.Wrapper
/-!
# One key per scheme

An account is asked for its public key under a scheme in two ways: addresses come from the first
derivation of the scheme, balances from the last one. Where no scheme has more than one derivation
these are the same. No change gives an account a second derivation of a scheme, so that a wallet
that was made here never has one; a wallet that was read may have, since only the default scheme of
an account is looked for in what is read.
-/

namespace Coffer

variable {services : Services} {payload next later : Payload} {held left : Option String}
  {transition : Transition} {change : Secret → Secret} {account old : Account} {scheme : Scheme}
  {xpub : String}

namespace Account

/-- No scheme of the account has more than one derivation. -/
def OnePerScheme (account : Account) : Prop := (account.derivations.map Derivation.scheme).Nodup

theorem isSome_lastXpub? (account : Account) (scheme : Scheme) :
    (account.lastXpub? scheme).isSome = (account.xpub? scheme).isSome := by
  rw [Bool.eq_iff_iff]
  simp only [lastXpub?, xpub?, derivation?, Option.isSome_map, List.find?_isSome, List.mem_reverse]

theorem find?_reverse_of_nodup {derivations : List Derivation}
    (distinct : (derivations.map Derivation.scheme).Nodup) :
    derivations.reverse.find? (fun derivation => derivation.scheme = scheme) =
      derivations.find? fun derivation => derivation.scheme = scheme := by
  induction derivations with
  | nil => rfl
  | cons first others ih =>
    obtain ⟨isNew, othersDistinct⟩ := List.nodup_cons.mp distinct
    rw [List.reverse_cons, List.find?_append, ih othersDistinct, List.find?_cons]
    by_cases isFirst : first.scheme = scheme
    · have noOther : others.find? (fun derivation => derivation.scheme = scheme) = none := by
        rw [List.find?_eq_none]
        intro other isIn same
        exact isNew (List.mem_map.mpr ⟨other, isIn, (of_decide_eq_true same).trans isFirst.symm⟩)
      simp [noOther, isFirst]
    · simp [isFirst]

namespace OnePerScheme

variable (one : account.OnePerScheme)

include one

theorem lastXpub? (scheme : Scheme) : account.lastXpub? scheme = account.xpub? scheme := by
  rw [Account.lastXpub?, find?_reverse_of_nodup one]
  rfl

theorem mem_xpubs : (scheme, xpub) ∈ account.xpubs ↔ account.xpub? scheme = some xpub := by
  simp only [xpubs, one.lastXpub?, List.mem_filterMap, Option.map_eq_some_iff, Prod.mk.injEq]
  constructor
  · rintro ⟨_, _, _, found, rfl, rfl⟩
    exact found
  · intro found
    exact ⟨scheme, by cases scheme <;> decide, xpub, found, rfl, rfl⟩

theorem accountTotal (cache : BalanceCache) : cache.accountTotal account =
    ([Scheme.legacy, .segwit].filterMap account.xpub?).foldl (fun total xpub =>
      total.merge (cache.balance xpub)) .zero := by
  simp only [BalanceCache.accountTotal, xpubs, one.lastXpub?, List.filterMap_cons,
    List.filterMap_nil]
  cases account.xpub? .legacy <;> cases account.xpub? .segwit <;> rfl

theorem withDerivation (derivation : Derivation) :
    (account.withDerivation derivation).OnePerScheme := by
  rw [OnePerScheme, Account.withDerivation, List.map_append, List.nodup_append]
  refine ⟨one.sublist (List.filter_sublist.map _), List.pairwise_singleton _ _, ?_⟩
  rintro first isOther _ isAdded rfl
  obtain ⟨other, isKept, rfl⟩ := List.mem_map.mp isOther
  have differs := (List.mem_filter.mp isKept).2
  exact of_decide_eq_true differs (List.mem_singleton.mp isAdded)

end OnePerScheme

theorem onePerScheme_recast : (account.recast change).OnePerScheme ↔ account.OnePerScheme := by
  rw [OnePerScheme, recast, List.map_map]
  rfl

/-- An account with a default chain makes its addresses of one of its keys, whatever scheme is
preferred. -/
theorem exists_receiveXpub? (hasChain : account.defaultXpub?.isSome = true) (preferred : Scheme) :
    ∃ scheme xpub, account.receiveXpub? preferred = some (scheme, xpub) ∧
      account.xpub? scheme = some xpub := by
  unfold receiveXpub?
  cases isPreferred : account.xpub? preferred with
  | some xpub => exact ⟨preferred, xpub, rfl, isPreferred⟩
  | none =>
    obtain ⟨xpub, isDefault⟩ := Option.isSome_iff_exists.mp hasChain
    exact ⟨account.defaultScheme, xpub, by rw [isDefault, Option.map_some], isDefault⟩

end Account

/-- An account of the later payload has one key per scheme if the one in its place had, or if there
was none. -/
def Payload.KeepsSchemes (before after : Payload) : Prop :=
  ∀ (i : Nat) (account : Account), after.accounts[i]? = some account →
    (∀ old, before.accounts[i]? = some old → old.OnePerScheme) → account.OnePerScheme

namespace Payload

theorem KeepsSchemes.refl (payload : Payload) : payload.KeepsSchemes payload :=
  fun _ account isAccount kept => kept account isAccount

theorem KeepsSchemes.trans (first : payload.KeepsSchemes next) (second : next.KeepsSchemes later) :
    payload.KeepsSchemes later :=
  fun i account isAccount kept => second i account isAccount fun old isOld => first i old isOld kept

theorem keepsSchemes_withBody {body new : Body} (isBody : payload.body? = some body)
    (accounts : ∀ (i : Nat) (account : Account), new.accounts[i]? = some account →
      (∃ old, body.accounts[i]? = some old ∧ (old.OnePerScheme → account.OnePerScheme)) ∨
        account.OnePerScheme) :
    payload.KeepsSchemes (payload.withBody new) := by
  intro i account isAccount kept
  rcases accounts i account isAccount with ⟨old, isOld, keeps⟩ | one
  · exact keeps (kept old (accounts_of_body isBody ▸ isOld))
  · exact one

theorem onePerScheme_of_schemes {version : Version}
    (schemes : account.derivations.map Derivation.scheme = Scheme.allFor version) :
    account.OnePerScheme := by
  rw [Account.OnePerScheme, schemes]
  cases version <;> decide

end Payload

theorem Edit.keepsSchemes (edit : Edit services payload held transition next) :
    payload.KeepsSchemes next := by
  cases edit with
  | @account body index old new isBody isOld derivations =>
    refine Payload.keepsSchemes_withBody isBody fun i account isAccount => .inl ?_
    by_cases own : index.toNat = i
    · subst own
      rw [List.getElem?_set_self (List.getElem?_eq_some_iff.mp isOld).1] at isAccount
      cases isAccount
      exact ⟨old, isOld, fun one => by rwa [Account.OnePerScheme, derivations]⟩
    · rw [List.getElem?_set_ne own] at isAccount
      exact ⟨account, isAccount, id⟩
  | body isBody =>
    exact Payload.keepsSchemes_withBody isBody fun i account isAccount =>
      .inl ⟨account, isAccount, id⟩
  | added isBody _ _ schemes =>
    refine Payload.keepsSchemes_withBody isBody fun i account isAccount => ?_
    rw [List.getElem?_append] at isAccount
    split at isAccount
    · exact .inl ⟨account, isAccount, id⟩
    · cases List.mem_singleton.mp (List.mem_of_getElem? isAccount)
      exact .inr (Payload.onePerScheme_of_schemes schemes)
  | watched => exact .refl payload
  | entry => exact .refl payload
  | imported => exact .refl payload
  | notes => exact .refl payload
  | rooted _ _ made =>
    obtain ⟨_, _, _, _, _, accounts⟩ := Body.ofEntropy_eq_ok made
    intro i account isAccount _
    rw [Payload.accounts_of_body rfl, accounts] at isAccount
    cases List.mem_singleton.mp (List.mem_of_getElem? isAccount)
    exact List.pairwise_singleton _ _
  | segwit _ upgraded =>
    intro i account isAccount kept
    obtain ⟨_, _, old, _, _, wasThere, upgradedOne⟩ :=
      Payload.addSegwit_of_upgradeBodies upgraded isAccount
    rcases Payload.addSegwit_eq_ok upgradedOne with ⟨_, rfl⟩ | ⟨_, _, derivation, _, _, rfl⟩
    · exact kept account wasThere
    · exact (kept old wasThere).withDerivation derivation

theorem Payload.keepsSchemes_recast {flag : Bool} {hash : Option String} :
    payload.KeepsSchemes (payload.recast change flag hash) := by
  intro i account isAccount kept
  rw [accounts_recast, List.getElem?_map, Option.map_eq_some_iff] at isAccount
  obtain ⟨old, isOld, rfl⟩ := isAccount
  exact Account.onePerScheme_recast.mpr (kept old isOld)

theorem Effect.keepsSchemes (effect : Effect services payload held transition next left change) :
    payload.KeepsSchemes next := by
  cases effect with
  | edited edit => exact edit.keepsSchemes
  | locked => exact Payload.keepsSchemes_recast
  | unlocked => exact Payload.keepsSchemes_recast

theorem Effect.checkBodies (effect : Effect services payload held transition next left change)
    (fit : payload.checkBodies = .ok ()) : next.checkBodies = .ok () := by
  cases effect with
  | edited edit => exact edit.checkBodies fit
  | locked => exact Payload.checkBodies_recast fit
  | unlocked => exact Payload.checkBodies_recast fit

namespace Payload

/-- The payloads that changes make of one, whatever they are made with. -/
inductive Becomes (payload : Payload) : Payload → Prop
  | refl : Becomes payload payload
  | change {later next : Payload} {services : Services} {transition : Transition}
      (becomes : Becomes payload later) (applied : transition.apply services later = .ok next) :
      Becomes payload next

theorem Becomes.keepsSchemes (becomes : payload.Becomes later) : payload.KeepsSchemes later := by
  induction becomes with
  | refl => exact .refl payload
  | change _ applied ih =>
    obtain ⟨_, _, _, effect⟩ := exists_effect applied
    exact ih.trans effect.keepsSchemes

theorem Becomes.checkBodies (becomes : payload.Becomes later) (fit : payload.checkBodies = .ok ()) :
    later.checkBodies = .ok () := by
  induction becomes with
  | refl => exact fit
  | change _ applied ih =>
    obtain ⟨_, _, _, effect⟩ := exists_effect applied
    exact effect.checkBodies ih

theorem onePerScheme_hierarchical {keys : KeySource} {guid sharedKey label : String}
    {entropy : Bytes} {iterations : UInt32}
    (made : hierarchical keys guid sharedKey label entropy iterations = .ok payload) {i : Nat}
    (isAccount : payload.accounts[i]? = some account) : account.OnePerScheme := by
  obtain ⟨_, edit⟩ := exists_edit_of_hierarchical made
  exact edit.keepsSchemes i account isAccount fun _ isOld => nomatch isOld

theorem hasChain_of_checkBodies (fit : payload.checkBodies = .ok ()) {i : Nat}
    (isAccount : payload.accounts[i]? = some account) : account.defaultXpub?.isSome = true := by
  rcases checkBodies_eq_ok.mp fit with ⟨_, body, isOnly, whole⟩ | ⟨_, none⟩
  · rw [accounts_of_body (body?_of_bodies isOnly)] at isAccount
    exact (Body.check_eq_ok.mp whole).1 account (List.mem_of_getElem? isAccount)
  · simp [accounts, body?, none] at isAccount

end Payload

/-- Wherever one key per scheme is read, both ways of looking for it agree from then on. In a
payload that is read, and in whatever changes make of it, each account makes its addresses of one of
its keys, and has balances asked for under the schemes that it has addresses of. If what was read
has one key per scheme in the place of an account, or no account there, the account has one key per
scheme. Then the keys that balances are asked for are those that addresses are made of, and its
balance is the sum over these. -/
theorem lookups_agree_after_unwrap {cipher : Cipher} {text password : String} {checksum : Checksum}
    (accepted : unwrap cipher text password = .ok (payload, checksum))
    (becomes : payload.Becomes later) {i : Nat} (isAccount : later.accounts[i]? = some account) :
    (∀ preferred, ∃ scheme xpub, account.receiveXpub? preferred = some (scheme, xpub) ∧
      account.xpub? scheme = some xpub) ∧
    (∀ scheme, (account.lastXpub? scheme).isSome = (account.xpub? scheme).isSome) ∧
    ((∀ old, payload.accounts[i]? = some old → old.OnePerScheme) →
      account.OnePerScheme ∧
      (∀ scheme xpub, (scheme, xpub) ∈ account.xpubs ↔ account.xpub? scheme = some xpub) ∧
      ∀ cache : BalanceCache, cache.accountTotal account =
        ([Scheme.legacy, .segwit].filterMap account.xpub?).foldl (fun total xpub =>
          total.merge (cache.balance xpub)) .zero) := by
  have sound := Payload.sound_of_valid (unwrap_eq_ok accepted).1
  have fit := becomes.checkBodies (Payload.checkBodies_eq_ok.mpr sound.bodies)
  have hasChain := Payload.hasChain_of_checkBodies fit isAccount
  refine ⟨account.exists_receiveXpub? hasChain, account.isSome_lastXpub?, fun originals => ?_⟩
  have one := becomes.keepsSchemes i account isAccount originals
  exact ⟨one, fun _ _ => one.mem_xpubs, one.accountTotal⟩

/-- A new wallet that was wrapped, read, and upgraded has two keys, both of which are asked for. -/
theorem lookups_agree_after_unwrap_upgraded : ∃ (text : String) (payload later : Payload)
    (checksum : Checksum) (account : Account),
      unwrap Toy.cipher text "password" = .ok (payload, checksum) ∧ payload.Becomes later ∧
      later.version = .v4 ∧ later.accounts[0]? = some account ∧
      ∀ scheme xpub, (scheme, xpub) ∈ account.xpubs ↔ account.xpub? scheme = some xpub := by
  obtain ⟨payload, labelled, body, _, seed, made, applied, isOld, isPlain, onlyBody, revealed,
      onlyAccount, _⟩ :=
    Toy.new_payload_is_labelled 7 0
  have valid := Payload.valid_hierarchical (by decide) (by decide) (by decide) made
  obtain ⟨text, checksum, accepted⟩ :=
    exists_unwrap_of_valid Toy.cipher_encrypts Toy.cipher_inverts valid "password"
  obtain ⟨upgraded, isUpgraded, isFourth, length⟩ :=
    Toy.upgradeToSegwit_succeeds isOld isPlain onlyBody revealed
      (by rw [onlyAccount, List.length_singleton]; decide)
  have upgrades : (Transition.upgradeToSegwit none).apply Toy.services labelled = .ok upgraded :=
    isUpgraded
  have becomes : payload.Becomes upgraded := .change (.change .refl applied) upgrades
  rw [onlyAccount, List.length_singleton] at length
  have isAccount := List.getElem?_eq_getElem (by rw [length]; decide : 0 < upgraded.accounts.length)
  have originals (old : Account) (isOld : payload.accounts[0]? = some old) : old.OnePerScheme :=
    Payload.onePerScheme_hierarchical made isOld
  obtain ⟨_, _, agree⟩ := lookups_agree_after_unwrap accepted becomes isAccount
  exact ⟨text, payload, upgraded, checksum, _, accepted, becomes, isFourth, isAccount,
    (agree originals).2.1⟩

def Payload.twin : Payload :=
  { flat "guid" "key" 7 with
    version := .v3
    bodies := [⟨.plain "", false, 0,
      [⟨"main", false, .legacy,
        [⟨.legacy, .plain "prv-a", "pub-a"⟩, ⟨.legacy, .plain "prv-b", "pub-b"⟩], .empty⟩]⟩] }

/-- When such a wallet is read, addresses come from its first key, and the balance of these does not
count. -/
theorem unwrapped_account_has_two_keys : ∃ (text : String) (payload : Payload) (checksum : Checksum)
    (account : Account) (cache : BalanceCache),
      unwrap Toy.cipher text "password" = .ok (payload, checksum) ∧
      payload.accounts = [account] ∧ account.xpub? .legacy = some "pub-a" ∧
      account.receiveXpub? (Scheme.defaultFor payload.version) = some (.legacy, "pub-a") ∧
      account.xpubs = [(.legacy, "pub-b")] ∧ cache.balance "pub-a" = ⟨5, 5, 1⟩ ∧
        cache.accountTotal account = .zero := by
  have valid : Payload.twin.validate = .ok () := by rfl
  obtain ⟨text, checksum, accepted⟩ :=
    exists_unwrap_of_valid Toy.cipher_encrypts Toy.cipher_inverts valid "password"
  exact ⟨text, .twin, _, _, ⟨SortedMap.empty.insert "pub-a" ⟨5, 5, 1⟩⟩, accepted, rfl, rfl, rfl,
    rfl, rfl, rfl⟩

end Coffer
