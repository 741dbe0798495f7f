import Coffer.Payload.Basic
import Coffer.Proofs.Secret
/-!
# Payloads with other secrets

A payload is recast when each of its secrets is replaced and everything else stays, but for what it
says about its second password. Locking and unlocking a payload are of this kind, so that whatever
does not look at secrets need not be told which of the two happened.
-/

namespace Coffer

/-- What a change makes of a secret; one that it refuses stays. -/
def Secret.settle (change : Secret → Except WalletError Secret) (secret : Secret) : Secret :=
  match change secret with
  | .ok result => result
  | .error _ => secret

def Derivation.recast (change : Secret → Secret) (derivation : Derivation) : Derivation :=
  { derivation with xpriv := change derivation.xpriv }

def Account.recast (change : Secret → Secret) (account : Account) : Account :=
  { account with derivations := account.derivations.map (Derivation.recast change) }

def Body.recast (change : Secret → Secret) (body : Body) : Body :=
  { body with seed := change body.seed, accounts := body.accounts.map (Account.recast change) }

def ImportedAddress.recast (change : Secret → Secret) (entry : ImportedAddress) : ImportedAddress :=
  { entry with key := entry.key.map change }

/-- The payload with other secrets and another account of its second password. -/
def Payload.recast (change : Secret → Secret) (doubleEncrypted : Bool) (secondHash : Option String)
    (payload : Payload) : Payload :=
  { payload with
    doubleEncrypted
    secondHash
    bodies := payload.bodies.map (Body.recast change)
    imported := payload.imported.map (ImportedAddress.recast change) }

variable {change other : Secret → Secret} {attempt : Secret → Except WalletError Secret}

theorem Secret.attempt_eq_ok {secret result : Secret} :
    attempt secret = .ok result ↔ (attempt secret).isOk = true ∧
      result = settle attempt secret := by
  unfold settle
  cases attempt secret with
  | error cause => simp [Except.isOk, Except.toBool]
  | ok changed => simp [Except.isOk, Except.toBool, eq_comm]

namespace Account

@[simp] theorem derivation?_recast (account : Account) (scheme : Scheme) :
    (account.recast change).derivation? scheme =
      (account.derivation? scheme).map (Derivation.recast change) := by
  rw [derivation?, recast, List.find?_map]
  rfl

@[simp] theorem xpub?_recast (account : Account) (scheme : Scheme) :
    (account.recast change).xpub? scheme = account.xpub? scheme := by
  rw [xpub?, derivation?_recast, Option.map_map]
  rfl

@[simp] theorem secrets_recast (account : Account) :
    (account.recast change).secrets = account.secrets.map change := by
  simp [secrets, recast, Derivation.recast]

end Account

@[simp] theorem Body.secrets_recast (body : Body) :
    (body.recast change).secrets = body.secrets.map change := by
  simp [secrets, recast, List.map_flatMap, List.flatMap_map]

namespace Payload

variable {doubleEncrypted : Bool} {secondHash : Option String}

@[simp] theorem body?_recast (payload : Payload) :
    (payload.recast change doubleEncrypted secondHash).body? =
      payload.body?.map (Body.recast change) := by
  simp [body?, recast]

theorem accounts_recast (payload : Payload) :
    (payload.recast change doubleEncrypted secondHash).accounts =
      payload.accounts.map (Account.recast change) := by
  rw [accounts, accounts, body?_recast]
  cases payload.body? <;> rfl

@[simp] theorem imported?_recast (payload : Payload) (address : String) :
    (payload.recast change doubleEncrypted secondHash).imported? address =
      (payload.imported? address).map (ImportedAddress.recast change) := by
  rw [imported?, recast, List.find?_map]
  rfl

@[simp] theorem secrets_recast (payload : Payload) :
    (payload.recast change doubleEncrypted secondHash).secrets = payload.secrets.map change := by
  have keys : (payload.imported.map (ImportedAddress.recast change)).filterMap ImportedAddress.key =
      (payload.imported.filterMap ImportedAddress.key).map change := by
    rw [List.filterMap_map, List.map_filterMap]
    rfl
  simp [secrets, recast, keys, List.map_flatMap, List.flatMap_map]

end Payload

theorem Account.recast_recast (account : Account) :
    (account.recast change).recast other = account.recast (other ∘ change) := by
  simp [recast, Derivation.recast]

theorem Body.recast_recast (body : Body) :
    (body.recast change).recast other = body.recast (other ∘ change) := by
  simp [recast, Account.recast_recast]

theorem ImportedAddress.recast_recast (entry : ImportedAddress) :
    (entry.recast change).recast other = entry.recast (other ∘ change) := by
  simp [recast]

theorem Payload.recast_recast (payload : Payload) {first second : Bool}
    {hash digest : Option String} :
    (payload.recast change first hash).recast other second digest =
      payload.recast (other ∘ change) second digest := by
  simp [recast, Body.recast_recast, ImportedAddress.recast_recast]

theorem map_eq_self {α : Type} {step : α → α} {items : List α}
    (each : ∀ item ∈ items, step item = item) : items.map step = items := by
  rw [List.map_congr_left each, List.map_id']

theorem Account.recast_eq_self {account : Account}
    (same : ∀ secret ∈ account.secrets, change secret = secret) :
    account.recast change = account := by
  have derivations : account.derivations.map (Derivation.recast change) = account.derivations := by
    apply map_eq_self
    intro derivation isIn
    rw [Derivation.recast, same derivation.xpriv (List.mem_map_of_mem isIn)]
  rw [recast, derivations]

theorem Body.recast_eq_self {body : Body} (same : ∀ secret ∈ body.secrets, change secret = secret) :
    body.recast change = body := by
  have accounts : body.accounts.map (Account.recast change) = body.accounts := by
    apply map_eq_self
    intro account isIn
    apply Account.recast_eq_self
    intro secret inAccount
    exact same secret (List.mem_cons_of_mem _ (List.mem_flatMap.mpr ⟨account, isIn, inAccount⟩))
  rw [recast, accounts, same body.seed List.mem_cons_self]

theorem Payload.recast_eq_self {payload : Payload}
    (same : ∀ secret ∈ payload.secrets, change secret = secret) :
    payload.recast change payload.doubleEncrypted payload.secondHash = payload := by
  have bodies : payload.bodies.map (Body.recast change) = payload.bodies := by
    apply map_eq_self
    intro body isIn
    apply Body.recast_eq_self
    intro secret inBody
    exact same secret (List.mem_append_left _ (List.mem_flatMap.mpr ⟨body, isIn, inBody⟩))
  have imported : payload.imported.map (ImportedAddress.recast change) = payload.imported := by
    apply map_eq_self
    intro entry isIn
    cases hasKey : entry.key with
    | none => rw [ImportedAddress.recast, hasKey, Option.map_none, ← hasKey]
    | some key =>
      have unchanged :=
        same key (List.mem_append_right _ (List.mem_filterMap.mpr ⟨entry, isIn, hasKey⟩))
      rw [ImportedAddress.recast, hasKey, Option.map_some, unchanged, ← hasKey]
  rw [recast, bodies, imported]

theorem Account.mapSecrets_eq_ok {account result : Account} :
    account.mapSecrets attempt = .ok result ↔
      (∀ secret ∈ account.secrets, (attempt secret).isOk = true) ∧
        result = account.recast (Secret.settle attempt) := by
  have each (derivation next : Derivation) :
      (do return { derivation with
        xpriv := ← attempt derivation.xpriv } : Except WalletError Derivation) = .ok next ↔
        (attempt derivation.xpriv).isOk = true ∧
          next = derivation.recast (Secret.settle attempt) := by
    simp only [bind_eq_ok, pure_eq_ok, Except.ok.injEq, Secret.attempt_eq_ok]
    constructor
    · rintro ⟨_, ⟨accepted, rfl⟩, rfl⟩
      exact ⟨accepted, rfl⟩
    · rintro ⟨accepted, rfl⟩
      exact ⟨_, ⟨accepted, rfl⟩, rfl⟩
  rw [mapSecrets, bind_eq_ok]
  simp only [mapM_eq_ok each]
  simp only [pure_eq_ok, Except.ok.injEq, secrets, List.forall_mem_map]
  constructor
  · rintro ⟨_, ⟨accepted, rfl⟩, rfl⟩
    exact ⟨accepted, rfl⟩
  · rintro ⟨accepted, rfl⟩
    exact ⟨_, ⟨accepted, rfl⟩, rfl⟩

theorem Body.mapSecrets_eq_ok {body result : Body} :
    body.mapSecrets attempt = .ok result ↔
      (∀ secret ∈ body.secrets, (attempt secret).isOk = true) ∧
        result = body.recast (Secret.settle attempt) := by
  simp only [mapSecrets, bind_eq_ok, mapM_eq_ok fun _ _ => Account.mapSecrets_eq_ok, pure_eq_ok,
    Except.ok.injEq, Secret.attempt_eq_ok, secrets, List.forall_mem_cons, List.forall_mem_flatMap]
  constructor
  · rintro ⟨_, ⟨accounts, rfl⟩, _, ⟨seed, rfl⟩, rfl⟩
    exact ⟨⟨seed, accounts⟩, rfl⟩
  · rintro ⟨⟨seed, accounts⟩, rfl⟩
    exact ⟨_, ⟨accounts, rfl⟩, _, ⟨seed, rfl⟩, rfl⟩

theorem ImportedAddress.mapSecret_eq_ok {entry result : ImportedAddress} :
    entry.mapSecret attempt = .ok result ↔
      (∀ key, entry.key = some key → (attempt key).isOk = true) ∧
        result = entry.recast (Secret.settle attempt) := by
  obtain ⟨address, key, label, archived, time, device, appVersion⟩ := entry
  cases key with
  | none =>
    simp only [mapSecret, Except.ok.injEq, recast, Option.map_none, reduceCtorEq, false_implies,
      implies_true, true_and]
    exact eq_comm
  | some key =>
    cases changed : attempt key with
    | error cause => simp [mapSecret, changed, Except.isOk, Except.toBool]
    | ok next =>
      simp only [mapSecret, changed, Except.ok.injEq, recast, Option.map_some, Secret.settle,
        Option.some.injEq, forall_eq', Except.isOk, Except.toBool, true_and]
      exact eq_comm

/-- A change of all secrets succeeds when it succeeds on each of them, and then recasts the
payload. -/
theorem Payload.mapSecrets_eq_ok {payload result : Payload} :
    payload.mapSecrets attempt = .ok result ↔
      (∀ secret ∈ payload.secrets, (attempt secret).isOk = true) ∧
        result = payload.recast (Secret.settle attempt) payload.doubleEncrypted
          payload.secondHash := by
  simp only [mapSecrets, bind_eq_ok, mapM_eq_ok fun _ _ => Body.mapSecrets_eq_ok,
    mapM_eq_ok fun _ _ => ImportedAddress.mapSecret_eq_ok, pure_eq_ok, Except.ok.injEq, secrets,
    List.forall_mem_append, List.forall_mem_flatMap, List.mem_filterMap]
  constructor
  · rintro ⟨_, ⟨bodies, rfl⟩, _, ⟨keys, rfl⟩, rfl⟩
    refine ⟨⟨bodies, ?_⟩, rfl⟩
    rintro secret ⟨entry, isIn, hasKey⟩
    exact keys entry isIn secret hasKey
  · rintro ⟨⟨bodies, keys⟩, rfl⟩
    exact ⟨_, ⟨bodies, rfl⟩, _, ⟨fun entry isIn key hasKey => keys key ⟨entry, isIn, hasKey⟩, rfl⟩,
      rfl⟩

/-- What a change makes of each secret that it accepts holds of every secret afterwards. -/
theorem Payload.forall_secrets_recast {payload : Payload} {p : Secret → Prop} {flag : Bool}
    {hash : Option String} (accepts : ∀ secret ∈ payload.secrets, (attempt secret).isOk = true)
    (each : ∀ secret next, attempt secret = .ok next → p next) :
    ∀ secret ∈ (payload.recast (Secret.settle attempt) flag hash).secrets, p secret := by
  intro secret isIn
  rw [secrets_recast] at isIn
  obtain ⟨old, wasThere, rfl⟩ := List.mem_map.mp isIn
  exact each old _ (Secret.attempt_eq_ok.mpr ⟨accepts old wasThere, rfl⟩)

end Coffer
