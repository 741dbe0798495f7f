import Mathlib.Data.List.Basic
import Coffer.Proofs.Payload.SecondPassword
/-!
# What is listed is what is rewritten

A wallet is its list of secrets and what is left of it when these are blanked out: whoever knows
both knows the wallet. To rewrite its secrets is to rewrite the list, each secret in its place, and
to leave the rest alone, so that no secret is rewritten that is not listed, and none is listed that
stays as it was. After locking all that is listed is encrypted, and after unlocking nothing is.
-/

namespace Coffer

/-- The secret that takes the place of those that are blanked out. -/
def Secret.blanked : Secret → Secret := fun _ => .plain ""

/-- What is left of a payload when its secrets are blanked out. -/
def Payload.blank (payload : Payload) : Payload :=
  payload.recast Secret.blanked payload.doubleEncrypted payload.secondHash

/-- An item can be restored from what is left of it and its secrets, whatever else is listed after
these. -/
def Restorable {α : Type} (rest : α → α) (secrets : α → List Secret) : Prop :=
  ∀ ⦃item other : α⦄ ⦃after later : List Secret⦄, rest item = rest other →
    secrets item ++ after = secrets other ++ later → item = other ∧ after = later

/-- Items whose secrets are listed one item after the other can be restored together. -/
theorem Restorable.list {α : Type} {rest : α → α} {secrets : α → List Secret}
    (restorable : Restorable rest secrets) : Restorable (List.map rest) (List.flatMap secrets) := by
  intro items others after later sameRest sameSecrets
  induction items generalizing others with
  | nil =>
    cases others with
    | nil => exact ⟨rfl, sameSecrets⟩
    | cons other others => cases sameRest
  | cons item items ih =>
    cases others with
    | nil => cases sameRest
    | cons other others =>
      obtain ⟨own, further⟩ := List.cons.inj sameRest
      rw [List.flatMap_cons, List.flatMap_cons, List.append_assoc, List.append_assoc] at sameSecrets
      obtain ⟨rfl, remaining⟩ := restorable own sameSecrets
      obtain ⟨rfl, atEnd⟩ := ih further remaining
      exact ⟨rfl, atEnd⟩

theorem Derivation.restorable : Restorable (recast Secret.blanked) fun derivation =>
    [derivation.xpriv] := by
  rintro ⟨scheme, xpriv, xpub⟩ ⟨otherScheme, otherXpriv, otherXpub⟩ after later sameRest sameSecrets
  cases sameRest
  cases sameSecrets
  exact ⟨rfl, rfl⟩

theorem Account.restorable : Restorable (recast Secret.blanked) secrets := by
  rintro ⟨label, archived, scheme, derivations, labels⟩
    ⟨otherLabel, otherArchived, otherScheme, others, otherLabels⟩ after later sameRest sameSecrets
  simp only [recast, mk.injEq] at sameRest
  obtain ⟨rfl, rfl, rfl, sameDerivations, rfl⟩ := sameRest
  simp only [secrets, List.map_eq_flatMap] at sameSecrets
  obtain ⟨rfl, atEnd⟩ := Derivation.restorable.list sameDerivations sameSecrets
  exact ⟨rfl, atEnd⟩

theorem Body.restorable : Restorable (recast Secret.blanked) secrets := by
  rintro ⟨seed, verified, default, accounts⟩ ⟨otherSeed, otherVerified, otherDefault,
    others⟩ after later sameRest sameSecrets
  simp only [recast, mk.injEq] at sameRest
  obtain ⟨-, rfl, rfl, sameAccounts⟩ := sameRest
  obtain ⟨rfl, further⟩ := List.cons.inj sameSecrets
  obtain ⟨rfl, atEnd⟩ := Account.restorable.list sameAccounts further
  exact ⟨rfl, atEnd⟩

theorem ImportedAddress.restorable :
    Restorable (recast Secret.blanked) fun entry => entry.key.toList := by
  rintro ⟨address, key, label, archived, time, system, appVersion⟩
    ⟨otherAddress, otherKey, otherLabel, otherArchived, otherTime, otherSystem, otherVersion⟩ after
    later sameRest sameSecrets
  simp only [recast, mk.injEq] at sameRest
  obtain ⟨rfl, sameKey, rfl, rfl, rfl, rfl, rfl⟩ := sameRest
  cases key with
  | none =>
    cases otherKey with
    | none => exact ⟨rfl, sameSecrets⟩
    | some otherKey => cases sameKey
  | some key =>
    cases otherKey with
    | none => cases sameKey
    | some otherKey =>
      obtain ⟨rfl, atEnd⟩ := List.cons.inj sameSecrets
      exact ⟨rfl, atEnd⟩

namespace Payload

variable {payload result other : Payload} {attempt : Secret → Except WalletError Secret}

theorem eq_of_blank (sameRest : payload.blank = other.blank)
    (sameSecrets : payload.secrets = other.secrets) : payload = other := by
  obtain ⟨guid, sharedKey, version, doubleEncrypted, secondHash, iterations, bodies, imported,
    notes⟩ := payload
  obtain ⟨_, _, _, _, _, _, otherBodies, otherImported, _⟩ := other
  simp only [blank, recast, mk.injEq] at sameRest
  obtain ⟨rfl, rfl, rfl, rfl, rfl, rfl, sameBodies, sameImported, rfl⟩ := sameRest
  simp only [secrets, List.filterMap_eq_flatMap_toList] at sameSecrets
  obtain ⟨rfl, keys⟩ := Body.restorable.list sameBodies sameSecrets
  rw [← List.append_nil (List.flatMap _ imported),
    ← List.append_nil (List.flatMap _ otherImported)] at keys
  obtain ⟨rfl, -⟩ := ImportedAddress.restorable.list sameImported keys
  rfl

theorem blank_recast (change : Secret → Secret) (payload : Payload) :
    (payload.recast change payload.doubleEncrypted payload.secondHash).blank = payload.blank :=
  recast_recast payload

theorem map_attempt {secrets : List Secret}
    (accepts : ∀ secret ∈ secrets, (attempt secret).isOk = true) :
    secrets.map attempt = (secrets.map (Secret.settle attempt)).map .ok := by
  rw [List.map_map]
  exact List.map_congr_left fun secret isIn => Secret.attempt_eq_ok.mpr ⟨accepts secret isIn, rfl⟩

theorem accepts_of_map {secrets results : List Secret}
    (listed : secrets.map attempt = results.map .ok) :
    ∀ secret ∈ secrets, (attempt secret).isOk = true := by
  intro secret isIn
  have isResult : attempt secret ∈ results.map Except.ok := listed ▸ List.mem_map_of_mem isIn
  obtain ⟨next, _, made⟩ := List.mem_map.mp isResult
  rw [← made]
  rfl

/-- To rewrite the secrets of a payload is to rewrite the list of them, and to leave the rest
alone. -/
theorem mapSecrets_eq_ok_iff_map :
    payload.mapSecrets attempt = .ok result ↔
      payload.secrets.map attempt = result.secrets.map .ok ∧ result.blank = payload.blank := by
  rw [mapSecrets_eq_ok]
  constructor
  · rintro ⟨accepts, rfl⟩
    rw [secrets_recast, blank_recast]
    exact ⟨map_attempt accepts, rfl⟩
  · rintro ⟨listed, sameRest⟩
    have accepts := accepts_of_map listed
    refine ⟨accepts, eq_of_blank ?_ ?_⟩
    · rw [blank_recast, sameRest]
    · rw [map_attempt accepts, List.map_inj_right fun _ _ => Except.ok.inj] at listed
      rw [secrets_recast, listed]

theorem exists_mapSecrets_iff :
    (∃ result, payload.mapSecrets attempt = .ok result) ↔
      ∀ secret ∈ payload.secrets, ∃ next, attempt secret = .ok next := by
  simp only [mapSecrets_eq_ok, exists_and_left, exists_eq, and_true]
  refine forall₂_congr fun secret _ => ?_
  cases attempt secret <;> simp [Except.isOk, Except.toBool]

/-- What is made of each listed secret holds of every secret that is listed afterwards. -/
theorem forall_secrets_of_mapSecrets {p : Secret → Prop}
    (rewritten : payload.mapSecrets attempt = .ok result)
    (each : ∀ secret next, attempt secret = .ok next → p next) :
    ∀ secret ∈ result.secrets, p secret := by
  obtain ⟨accepts, rfl⟩ := mapSecrets_eq_ok.mp rewritten
  exact forall_secrets_recast accepts each

/-- The secrets of a payload can be rewritten just when each listed one can; then the list of the
result is the list of what was made of them, in order, and nothing else is changed. So whatever is
locked lists encrypted secrets only, whatever is unlocked lists none, and either is consistent. -/
theorem rewriting_follows_listing (payload : Payload) :
    (∀ attempt, (∃ result, payload.mapSecrets attempt = .ok result) ↔
        ∀ secret ∈ payload.secrets, ∃ next, attempt secret = .ok next) ∧
      (∀ attempt result, payload.mapSecrets attempt = .ok result ↔
        payload.secrets.map attempt = result.secrets.map .ok ∧ result.blank = payload.blank) ∧
      (∀ (fields : FieldCipher) locked, payload.mapSecrets fields.lock = .ok locked →
        ∀ secret ∈ locked.secrets, secret.isEncrypted = true) ∧
      (∀ (fields : FieldCipher) unlocked, payload.mapSecrets fields.unlock = .ok unlocked →
        ∀ secret ∈ unlocked.secrets, secret.isEncrypted = false) ∧
      (∀ cipher seed second locked, payload.setSecond cipher seed second = .ok locked →
        (∀ secret ∈ locked.secrets, secret.isEncrypted = true) ∧ locked.checkEncryption = .ok ()) ∧
      ∀ cipher second unlocked, payload.unsetSecond cipher second = .ok unlocked →
        (∀ secret ∈ unlocked.secrets, secret.isEncrypted = false) ∧
          unlocked.checkEncryption = .ok () := by
  refine ⟨fun _ => exists_mapSecrets_iff, fun _ _ => mapSecrets_eq_ok_iff_map, ?_, ?_, ?_, ?_⟩
  · intro fields locked rewritten
    exact forall_secrets_of_mapSecrets rewritten fun _ _ => FieldCipher.isEncrypted_of_lock
  · intro fields unlocked rewritten
    exact forall_secrets_of_mapSecrets rewritten fun _ _ => FieldCipher.isEncrypted_of_unlock
  · intro cipher seed second locked set
    obtain ⟨_, _, _, locks, rfl⟩ := setSecond_eq_ok.mp set
    exact consistent_of_locks locks
  · intro cipher second unlocked unset
    obtain ⟨_, _, unlocks, rfl⟩ := unsetSecond_eq_ok.mp unset
    exact consistent_of_unlocks unlocks

/-- Two bodies, of which one has two accounts, and two imported addresses, of which one has a
key. -/
def scattered : Payload :=
  { flat "guid" "key" 7 with
    bodies :=
      [⟨.plain "00ff", false, 0,
          [.ofDerivation "main" ⟨.legacy, .plain "prv-main", "pub-main"⟩,
            .ofDerivation "rent" ⟨.segwit, .plain "prv-rent", "pub-rent"⟩]⟩,
        ⟨.plain "ff00", true, 0, [.ofDerivation "old" ⟨.legacy, .plain "prv-old", "pub-old"⟩]⟩]
    imported :=
      [.watchOnly "addr-cold" "",
      ⟨"addr-warm", some (.plain "wif-warm"), "", false, none, "", ""⟩] }

/-- Secrets in every place where a payload can have one are locked together, and unlocked again. -/
theorem rewriting_follows_listing_scattered :
    ∃ locked unlocked, scattered.setSecond Toy.cipher [] "second" = .ok locked ∧
      (∀ secret ∈ locked.secrets, secret.isEncrypted = true) ∧
      locked.unsetSecond Toy.cipher "second" = .ok unlocked ∧
      (∀ secret ∈ unlocked.secrets, secret.isEncrypted = false) ∧
      ∃ rewritten, scattered.mapSecrets (scattered.fieldsOf Toy.cipher [] "second").lock =
          .ok rewritten ∧
        scattered.secrets.map (scattered.fieldsOf Toy.cipher [] "second").lock =
          rewritten.secrets.map .ok ∧
        rewritten.blank = scattered.blank := by
  obtain ⟨unlocked, turned⟩ : ∃ unlocked,
      (scattered.setSecond Toy.cipher [] "second" >>= fun locked =>
      locked.unsetSecond Toy.cipher "second") = .ok unlocked := exists_of_isOk (by decide +kernel)
  obtain ⟨locked, set, unset⟩ := bind_eq_ok.mp turned
  have locks : ∀ secret ∈ scattered.secrets, ∃ next,
      (scattered.fieldsOf Toy.cipher [] "second").lock secret = .ok next := by
    intro secret _
    cases secret with
    | plain text =>
      exact (scattered.fieldsOf Toy.cipher [] "second").encrypt_succeeds Toy.cipher_encrypts
        (by decide) text
    | encrypted field => exact ⟨_, rfl⟩
  obtain ⟨exactly, listed, _, _, setting, _⟩ := rewriting_follows_listing scattered
  obtain ⟨_, _, _, _, _, dropping⟩ := rewriting_follows_listing locked
  obtain ⟨rewritten, isRewritten⟩ := (exactly _).mpr locks
  exact ⟨locked, unlocked, set, (setting _ _ _ _ set).1, unset, (dropping _ _ _ unset).1,
    rewritten, isRewritten, (listed _ _).mp isRewritten⟩

end Payload

end Coffer
