import Coffer.Payload.SecondPassword
import Coffer.Proofs.Payload.Secrets
import Coffer.Proofs.Payload.Validity
/-!
# What a second password gives access to

A second password is taken for the right one when it opens the first encrypted secret, or has the
stored digest where there is none. Whoever is admitted reads every secret with one and the same
field cipher, so that revealing a secret comes to being admitted and reading it.
-/

namespace Coffer.Payload

variable {payload next : Payload} {cipher : Cipher} {seed : Bytes} {held : Option String}
  {second : String}

/-- A second password passes for the one of the wallet. -/
def Accepts (payload : Payload) (cipher : Cipher) (second : String) : Prop :=
  match payload.secrets.find? Secret.isEncrypted with
  | some reference => ∃ text, (payload.fieldsOf cipher [] second).reveal reference = .ok text
  | none => payload.secondHash = some (payload.hashOf second)

/-- Whoever has `held` may read the secrets of the wallet. -/
def Admits (payload : Payload) (cipher : Cipher) (held : Option String) : Prop :=
  payload.doubleEncrypted = true → ∃ second, held = some second ∧ payload.Accepts cipher second

def access (payload : Payload) (cipher : Cipher) (seed : Bytes) (held : Option String) :
    Option FieldCipher :=
  if payload.doubleEncrypted then held.map (payload.fieldsOf cipher seed) else none

def Reads (payload : Payload) (cipher : Cipher) (held : Option String) (secret : Secret)
    (text : String) : Prop :=
  secret.reveal (payload.access cipher [] held) = .ok text

theorem reveal_fieldsOf (payload : Payload) (cipher : Cipher) (seed : Bytes) (second : String) :
    (payload.fieldsOf cipher seed second).reveal = (payload.fieldsOf cipher [] second).reveal :=
  FieldCipher.reveal_seed ..

theorem reveal_access (payload : Payload) (cipher : Cipher) (seed : Bytes) (held : Option String)
    (secret : Secret) :
    secret.reveal (payload.access cipher seed held) =
      secret.reveal (payload.access cipher [] held) := by
  unfold access
  split
  · cases held with
    | none => rfl
    | some second =>
      simp only [Option.map_some, Secret.reveal_some, reveal_fieldsOf payload cipher seed]
  · rfl

theorem access_of_plain (isPlain : payload.doubleEncrypted = false) :
    payload.access cipher seed held = none := by
  simp [access, isPlain]

theorem access_of_locked (isLocked : payload.doubleEncrypted = true) :
    payload.access cipher seed (some second) = some (payload.fieldsOf cipher seed second) := by
  simp [access, isLocked]

/-- Two payloads that agree on their second password, keys and counts are read in the same way. -/
theorem access_congr (flag : next.doubleEncrypted = payload.doubleEncrypted)
    (sharedKey : next.sharedKey = payload.sharedKey)
    (iterations : next.iterations = payload.iterations) :
    next.access cipher seed held = payload.access cipher seed held := by
  have fields : next.fieldsOf cipher seed = payload.fieldsOf cipher seed := by
    funext second
    simp only [fieldsOf, sharedKey, iterations]
  simp only [access, flag, fields]

theorem fieldCipher_eq_ok {fields : Option FieldCipher} :
    payload.fieldCipher cipher seed held = .ok fields ↔
      payload.Admits cipher held ∧ fields = payload.access cipher seed held := by
  unfold fieldCipher Admits
  cases isLocked : payload.doubleEncrypted with
  | false => simp [access_of_plain isLocked, eq_comm]
  | true =>
    cases held with
    | none => simp
    | some second =>
      simp only [Bool.not_true, Bool.false_eq_true, if_false, access_of_locked isLocked, Accepts,
        Option.some.injEq, exists_eq_left', forall_const, reveal_fieldsOf payload cipher seed]
      cases payload.secrets.find? Secret.isEncrypted with
      | some reference =>
        simp only
        cases (payload.fieldsOf cipher [] second).reveal reference with
        | error cause => simp
        | ok text => simp [eq_comm]
      | none =>
        by_cases digest : payload.secondHash = some (payload.hashOf second)
        · simp [digest, eq_comm]
        · simp [digest]

theorem fieldCipher_of_plain (isPlain : payload.doubleEncrypted = false) :
    payload.fieldCipher cipher seed held = .ok none := by
  simp [fieldCipher, isPlain]

theorem fieldCipher_congr {other : Option String} (same : payload.doubleEncrypted = true →
      held = other) :
    payload.fieldCipher cipher seed held = payload.fieldCipher cipher seed other := by
  cases isLocked : payload.doubleEncrypted with
  | false => simp [fieldCipher, isLocked]
  | true => rw [same isLocked]

theorem mem_secrets_of_body {body : Body} {secret : Secret} (isBody : payload.body? = some body)
    (isIn : secret ∈ body.secrets) : secret ∈ payload.secrets :=
  List.mem_append_left _ (List.mem_flatMap.mpr ⟨body, List.mem_of_head? isBody, isIn⟩)

theorem seed_mem_secrets {body : Body} (isBody : payload.body? = some body) :
    body.seed ∈ payload.secrets :=
  mem_secrets_of_body isBody List.mem_cons_self

theorem xpriv_mem_secrets {account : Account} {derivation : Derivation}
    (isAccount : account ∈ payload.accounts) (isIn : derivation ∈ account.derivations) :
    derivation.xpriv ∈ payload.secrets := by
  rw [accounts] at isAccount
  cases isBody : payload.body? with
  | none =>
    rw [isBody] at isAccount
    cases isAccount
  | some body =>
    rw [isBody] at isAccount
    have inAccount : derivation.xpriv ∈ account.secrets := List.mem_map_of_mem isIn
    exact mem_secrets_of_body isBody
      (List.mem_cons_of_mem _ (List.mem_flatMap.mpr ⟨account, isAccount, inAccount⟩))

theorem key_mem_secrets {entry : ImportedAddress} {key : Secret} (isIn : entry ∈ payload.imported)
    (hasKey : entry.key = some key) : key ∈ payload.secrets :=
  List.mem_append_right _ (List.mem_filterMap.mpr ⟨entry, isIn, hasKey⟩)

theorem account_eq_ok {index : UInt64} {account : Account} :
    payload.account index = .ok account ↔ payload.accounts[index.toNat]? = some account := by
  simp only [Payload.account, requireBody, accounts]
  cases payload.body? with
  | none => simp
  | some body =>
    simp only [bind_ok, Option.map_some, Option.getD_some, Body.account?]
    cases body.accounts[index.toNat]? <;> simp

theorem revealXpriv_eq_ok {index : UInt64} {scheme : Scheme} {text : String} :
    payload.revealXpriv cipher index scheme held = .ok text ↔ payload.Admits cipher held ∧
      ∃ account derivation, payload.accounts[index.toNat]? = some account ∧
        account.derivation? scheme = some derivation ∧
          payload.Reads cipher held derivation.xpriv text := by
  simp only [revealXpriv, bind_eq_ok, liftError_eq_ok, account_eq_ok, Reads]
  constructor
  · rintro ⟨account, isAccount, revealed⟩
    cases found : account.derivation? scheme with
    | none => simp [found] at revealed
    | some derivation =>
      simp only [found, bind_eq_ok, fieldCipher_eq_ok] at revealed
      obtain ⟨fields, ⟨admitted, rfl⟩, reads⟩ := revealed
      exact ⟨admitted, account, derivation, isAccount, found, reads⟩
  · rintro ⟨admitted, account, derivation, isAccount, found, reads⟩
    refine ⟨account, isAccount, ?_⟩
    simp only [found, bind_eq_ok, fieldCipher_eq_ok]
    exact ⟨_, ⟨admitted, rfl⟩, reads⟩

theorem revealImported_eq_ok {address text : String} :
    payload.revealImported cipher address held = .ok text ↔ payload.Admits cipher held ∧
      ∃ entry key, payload.imported? address = some entry ∧ entry.key = some key ∧
        payload.Reads cipher held key text := by
  unfold revealImported Reads
  cases payload.imported? address with
  | none => simp
  | some entry =>
    simp only [Option.some.injEq, exists_and_left, exists_eq_left']
    cases entry.key with
    | none => simp
    | some key =>
      simp only [bind_eq_ok, fieldCipher_eq_ok, Option.some.injEq, exists_eq_left']
      constructor
      · rintro ⟨fields, ⟨admitted, rfl⟩, reads⟩
        exact ⟨admitted, reads⟩
      · rintro ⟨admitted, reads⟩
        exact ⟨_, ⟨admitted, rfl⟩, reads⟩

theorem requireBody_eq_ok {body : Body} : payload.requireBody = .ok body ↔
    payload.body? = some body := by
  unfold requireBody
  cases payload.body? <;> simp

theorem revealEntropy_eq_ok {body : Body} {fields : Option FieldCipher} {entropy : Bytes} :
    body.revealEntropy fields = .ok entropy ↔
      ∃ text, body.seed.reveal fields = .ok text ∧ Hex.decode text = .ok entropy := by
  simp only [Body.revealEntropy, bind_eq_ok]
  refine exists_congr fun text => and_congr_right fun _ => ?_
  cases Hex.decode text <;> simp

theorem revealPhrase_eq_ok {phrase : String} :
    payload.revealPhrase cipher held = .ok phrase ↔ payload.Admits cipher held ∧
      ∃ body text entropy, payload.body? = some body ∧ payload.Reads cipher held body.seed text ∧
        Hex.decode text = .ok entropy ∧ Phrase.reveal entropy = .ok phrase := by
  simp only [revealPhrase, bind_eq_ok, liftError_eq_ok, requireBody_eq_ok, fieldCipher_eq_ok,
    revealEntropy_eq_ok, Reads]
  constructor
  · rintro ⟨body, isBody, fields, ⟨admitted, rfl⟩, entropy, ⟨text, reads, decoded⟩, spelled⟩
    exact ⟨admitted, body, text, entropy, isBody, reads, decoded, spelled⟩
  · rintro ⟨admitted, body, text, entropy, isBody, reads, decoded, spelled⟩
    exact ⟨body, isBody, _, ⟨admitted, rfl⟩, entropy, ⟨text, reads, decoded⟩, spelled⟩

/-- A second password is set on a consistent wallet without one, when every secret can be
encrypted. -/
theorem setSecond_eq_ok :
    payload.setSecond cipher seed second = .ok next ↔ payload.doubleEncrypted = false ∧
      requireText second "second password" = .ok () ∧ payload.checkEncryption = .ok () ∧
      (∀ secret ∈ payload.secrets, ((payload.fieldsOf cipher seed second).lock secret).isOk =
        true) ∧
      next = payload.recast (Secret.settle (payload.fieldsOf cipher seed second).lock) true
        (some (payload.hashOf second)) := by
  unfold setSecond
  cases payload.doubleEncrypted with
  | true => simp
  | false =>
    simp only [Bool.false_eq_true, if_false, bind_eq_ok, liftError_eq_ok,
      mapSecrets_eq_ok, pure_eq_ok, Except.ok.injEq, true_and]
    constructor
    · rintro ⟨⟨⟩, named, ⟨⟩, consistent, _, ⟨locks, rfl⟩, rfl⟩
      exact ⟨named, consistent, locks, rfl⟩
    · rintro ⟨named, consistent, locks, rfl⟩
      exact ⟨(), named, (), consistent, _, ⟨locks, rfl⟩, rfl⟩

theorem unsetSecond_eq_ok :
    payload.unsetSecond cipher second = .ok next ↔ payload.doubleEncrypted = true ∧
      payload.Accepts cipher second ∧
      (∀ secret ∈ payload.secrets, ((payload.fieldsOf cipher [] second).unlock secret).isOk =
        true) ∧
      next = payload.recast (Secret.settle (payload.fieldsOf cipher [] second).unlock)
        false none := by
  simp only [unsetSecond, bind_eq_ok, fieldCipher_eq_ok, Admits]
  cases isLocked : payload.doubleEncrypted with
  | false => simp [access_of_plain isLocked]
  | true =>
    simp only [access_of_locked isLocked, forall_const, Option.some.injEq,
      exists_eq_left', true_and]
    constructor
    · rintro ⟨_, ⟨accepted, rfl⟩, unlocked⟩
      simp only [bind_eq_ok, mapSecrets_eq_ok, pure_eq_ok, Except.ok.injEq] at unlocked
      obtain ⟨_, ⟨unlocks, rfl⟩, rfl⟩ := unlocked
      exact ⟨accepted, unlocks, rfl⟩
    · rintro ⟨accepted, unlocks, rfl⟩
      refine ⟨_, ⟨accepted, rfl⟩, ?_⟩
      simp only [bind_eq_ok, mapSecrets_eq_ok, pure_eq_ok, Except.ok.injEq]
      exact ⟨_, ⟨unlocks, rfl⟩, rfl⟩

theorem consistent_of_locks {fields : FieldCipher} {hash : String}
    (locks : ∀ secret ∈ payload.secrets, (fields.lock secret).isOk = true) :
    (∀ secret ∈ (payload.recast (Secret.settle fields.lock) true (some hash)).secrets,
      secret.isEncrypted = true) ∧
      (payload.recast (Secret.settle fields.lock) true (some hash)).checkEncryption = .ok () := by
  have locked : ∀ secret ∈ (payload.recast (Secret.settle fields.lock) true (some hash)).secrets,
      secret.isEncrypted = true :=
        forall_secrets_recast locks fun _ _ => FieldCipher.isEncrypted_of_lock
  exact ⟨locked, checkEncryption_eq_ok.mpr ⟨locked, fun _ => .inl rfl⟩⟩

theorem consistent_of_unlocks {fields : FieldCipher} {hash : Option String}
    (unlocks : ∀ secret ∈ payload.secrets, (fields.unlock secret).isOk = true) :
    (∀ secret ∈ (payload.recast (Secret.settle fields.unlock) false hash).secrets,
      secret.isEncrypted = false) ∧
      (payload.recast (Secret.settle fields.unlock) false hash).checkEncryption = .ok () := by
  have unlocked : ∀ secret ∈ (payload.recast (Secret.settle fields.unlock) false hash).secrets,
      secret.isEncrypted = false :=
        forall_secrets_recast unlocks fun _ _ => FieldCipher.isEncrypted_of_unlock
  exact ⟨unlocked, checkEncryption_eq_ok.mpr ⟨unlocked, fun isLocked => nomatch isLocked⟩⟩

def Open (payload : Payload) (cipher : Cipher) (held : Option String) : Prop :=
  ∀ secret ∈ payload.secrets, ∃ text, payload.Reads cipher held secret text

def Digests (payload : Payload) (held : Option String) : Prop :=
  payload.doubleEncrypted = true → ∃ second, held = some second ∧
    payload.secondHash = some (payload.hashOf second)

theorem Open.admits (opens : payload.Open cipher held) (digests : payload.Digests held) :
    payload.Admits cipher held := by
  intro isLocked
  obtain ⟨second, rfl, digest⟩ := digests isLocked
  refine ⟨second, rfl, ?_⟩
  unfold Accepts
  split
  · rename_i reference isReference
    obtain ⟨text, reads⟩ := opens reference (List.mem_of_find?_eq_some isReference)
    rw [Reads, access_of_locked isLocked, Secret.reveal_some] at reads
    exact ⟨text, reads⟩
  · exact digest

end Coffer.Payload
