import Coffer.Proofs.Payload.Effect
/-!
# Reading after a change

What could be read before a change can be read after it, under the second password that the change
leaves. Secrets that come along are protected like those that are there, but for the key of an entry
that is added as it is given.
-/

namespace Coffer

variable {services : Services} {payload next : Payload} {held left : Option String}
  {transition : Transition} {change : Secret → Secret} {secret : Secret}

/-! ## Secrets of a changed payload -/

namespace Payload

theorem mem_secrets_withBody {body : Body} (isIn : secret ∈ (payload.withBody body).secrets) :
    secret ∈ body.secrets ∨ secret ∈ payload.secrets := by
  simp only [secrets, withBody, List.flatMap_cons, List.flatMap_nil, List.append_nil,
    List.mem_append] at isIn
  exact isIn.imp_right (List.mem_append_right _)

theorem mem_secrets_withEntry {entry : ImportedAddress}
    (isIn : secret ∈ (payload.withEntry entry).secrets) :
    entry.key = some secret ∨ secret ∈ payload.secrets := by
  simp only [secrets, withEntry, List.mem_append, List.mem_filterMap] at isIn
  rcases isIn with inBody | ⟨other, isThere, hasKey⟩
  · exact .inr (List.mem_append_left _ inBody)
  · rcases mem_putEntry isThere with rfl | wasThere
    · exact .inl hasKey
    · exact .inr (key_mem_secrets wasThere hasKey)

theorem protect_of_derive {fields : Option FieldCipher} {seed : Bytes} {number : UInt32}
    {scheme : Scheme} {derivation : Derivation}
    (derived : derive services fields seed number scheme = .ok derivation) :
    ∃ text, Secret.protect fields text = .ok derivation.xpriv := by
  obtain ⟨_, keys, _, _, made⟩ := derive_eq_ok.mp derived
  exact ⟨keys.xpriv, made⟩

theorem mem_secrets_of_addSegwit {fields : Option FieldCipher} {seed : Bytes} {position : Nat}
    {account after : Account}
    (upgraded : addSegwit services fields seed position account = .ok after)
    (isIn : secret ∈ after.secrets) :
    secret ∈ account.secrets ∨ ∃ text, Secret.protect fields text = .ok secret := by
  rcases addSegwit_eq_ok upgraded with ⟨_, rfl⟩ | ⟨lacking, number, derivation, _, derived, rfl⟩
  · exact .inl isIn
  · have isNew : derivation.scheme ∉ account.derivations.map Derivation.scheme := by
      rw [(derive_eq_ok.mp derived).1]
      exact Account.xpub?_eq_none.mp lacking
    rw [Account.withDerivation_of_new isNew] at isIn
    simp only [Account.secrets, List.map_append, List.map_singleton, List.mem_append,
      List.mem_singleton] at isIn
    rcases isIn with isOld | rfl
    · exact .inl isOld
    · exact .inr (protect_of_derive derived)

theorem mem_secrets_of_upgradeBody {fields : Option FieldCipher} {body after : Body}
    (upgraded : upgradeBody services fields body = .ok after) (isIn : secret ∈ after.secrets) :
    secret ∈ body.secrets ∨ ∃ text, Secret.protect fields text = .ok secret := by
  obtain ⟨seed, accounts, _, upgradedAll, rfl⟩ := upgradeBody_eq_ok upgraded
  rcases List.mem_cons.mp isIn with rfl | inAccounts
  · exact .inl List.mem_cons_self
  · obtain ⟨account, isAccount, inAccount⟩ := List.mem_flatMap.mp inAccounts
    obtain ⟨i, inRange, rfl⟩ := List.getElem_of_mem isAccount
    obtain ⟨length, each⟩ := addSegwitFrom_eq_ok upgradedAll
    obtain ⟨later, isLater, upgradedOne⟩ := each i _ (List.getElem?_eq_getElem (length ▸ inRange))
    rw [List.getElem?_eq_getElem inRange] at isLater
    cases isLater
    refine (mem_secrets_of_addSegwit upgradedOne inAccount).imp_left fun wasThere => ?_
    exact List.mem_cons_of_mem _ (List.mem_flatMap.mpr ⟨_, List.getElem_mem _, wasThere⟩)

theorem mem_secrets_of_ofEntropy {fields : Option FieldCipher} {entropy : Bytes} {label : String}
    {scheme : Scheme} {body : Body}
    (made : Body.ofEntropy services.keys fields entropy label scheme = .ok body)
    (isIn : secret ∈ body.secrets) : ∃ text, Secret.protect fields text = .ok secret := by
  obtain ⟨seed, derivation, _, closed, derived, accounts⟩ := Body.ofEntropy_eq_ok made
  simp only [Body.secrets, accounts, Account.secrets, Account.ofDerivation, List.flatMap_cons,
    List.flatMap_nil, List.map_cons, List.map_nil, List.append_nil, List.mem_cons, List.not_mem_nil,
    or_false] at isIn
  rcases isIn with rfl | rfl
  · exact ⟨_, closed⟩
  · exact protect_of_derive derived

end Payload

namespace Edit

variable (edit : Edit services payload held transition next)

include edit

theorem kept : next.guid = payload.guid ∧ next.sharedKey = payload.sharedKey ∧
    next.iterations = payload.iterations ∧ next.doubleEncrypted = payload.doubleEncrypted ∧
      next.secondHash = payload.secondHash := by
  cases edit <;> exact ⟨rfl, rfl, rfl, rfl, rfl⟩

theorem access (cipher : Cipher) (seed : Bytes) (other : Option String) :
    next.access cipher seed other = payload.access cipher seed other := by
  obtain ⟨_, sharedKey, iterations, flag, _⟩ := edit.kept
  exact Payload.access_congr flag sharedKey iterations

/-- Every secret of an edited payload was there, or was protected for it, or is the key of an added
entry. -/
theorem secrets (isIn : secret ∈ next.secrets) : secret ∈ payload.secrets ∨
    (∃ text, Secret.protect (payload.access services.cipher services.seed held) text = .ok secret) ∨
      ∃ entry, transition = .addImported entry ∧ entry.key = some secret := by
  cases edit with
  | @account body index old new isBody isOld derivations =>
    rcases Payload.mem_secrets_withBody isIn with inBody | wasThere
    · left
      apply Payload.mem_secrets_of_body isBody
      rcases List.mem_cons.mp inBody with rfl | inAccounts
      · exact List.mem_cons_self
      · obtain ⟨account, isAccount, inAccount⟩ := List.mem_flatMap.mp inAccounts
        apply List.mem_cons_of_mem
        rcases List.mem_or_eq_of_mem_set isAccount with wasThere | rfl
        · exact List.mem_flatMap.mpr ⟨account, wasThere, inAccount⟩
        · rw [Account.secrets, derivations] at inAccount
          exact List.mem_flatMap.mpr ⟨old, List.mem_of_getElem? isOld, inAccount⟩
    · exact .inl wasThere
  | body isBody =>
    rcases Payload.mem_secrets_withBody isIn with inBody | wasThere
    · exact .inl (Payload.mem_secrets_of_body isBody inBody)
    · exact .inl wasThere
  | added isBody _ _ _ _ each =>
    rcases Payload.mem_secrets_withBody isIn with inBody | wasThere
    · rw [Body.secrets, List.flatMap_append, ← List.cons_append, List.mem_append] at inBody
      rcases inBody with wasThere | isNew
      · exact .inl (Payload.mem_secrets_of_body isBody wasThere)
      · rw [List.flatMap_singleton] at isNew
        obtain ⟨derivation, isDerivation, rfl⟩ := List.mem_map.mp isNew
        exact .inr (.inl (Payload.protect_of_derive (each derivation isDerivation)))
    · exact .inl wasThere
  | watched isChange =>
    rcases Payload.mem_secrets_withEntry isIn with hasKey | wasThere
    · exact .inr (.inr ⟨_, isChange, hasKey⟩)
    · exact .inl wasThere
  | entry isThere sameKey =>
    rcases Payload.mem_secrets_withEntry isIn with hasKey | wasThere
    · exact .inl (Payload.key_mem_secrets (List.mem_of_find?_eq_some isThere) (sameKey ▸ hasKey))
    · exact .inl wasThere
  | imported _ made hasKey =>
    rcases Payload.mem_secrets_withEntry isIn with isKey | wasThere
    · cases hasKey.symm.trans isKey
      exact .inr (.inl ⟨_, made⟩)
    · exact .inl wasThere
  | notes => exact .inl isIn
  | rooted _ _ made =>
    rcases Payload.mem_secrets_withBody isIn with inBody | wasThere
    · exact .inr (.inl (Payload.mem_secrets_of_ofEntropy made inBody))
    · exact .inl wasThere
  | segwit _ upgraded =>
    rcases List.mem_append.mp isIn with inBodies | isKey
    · obtain ⟨after, isAfter, inBody⟩ := List.mem_flatMap.mp inBodies
      obtain ⟨body, isBody, upgradedBody⟩ := mem_of_mapM upgraded isAfter
      rcases Payload.mem_secrets_of_upgradeBody upgradedBody inBody with wasThere | made
      · exact .inl (List.mem_append_left _ (List.mem_flatMap.mpr ⟨body, isBody, wasThere⟩))
      · exact .inr (.inl made)
    · exact .inl (List.mem_append_right _ isKey)

theorem distinct (distinct : (payload.imported.map ImportedAddress.address).Nodup) :
    (next.imported.map ImportedAddress.address).Nodup := by
  cases edit with
  | watched => exact Payload.nodup_addresses_putEntry _ distinct
  | entry => exact Payload.nodup_addresses_putEntry _ distinct
  | imported => exact Payload.nodup_addresses_putEntry _ distinct
  | _ => exact distinct

end Edit

/-! ## Reading -/

namespace Payload

theorem plain_of_consistent (consistent : payload.checkEncryption = .ok ())
    (isPlain : payload.doubleEncrypted = false) (isIn : secret ∈ payload.secrets) :
    ∃ text, secret = .plain text := by
  have unencrypted := (checkEncryption_eq_ok.mp consistent).1 secret isIn
  rw [isPlain] at unencrypted
  cases secret with
  | plain text => exact ⟨text, rfl⟩
  | encrypted field => cases unencrypted

theorem reads_of_protect {cipher : Cipher} {seed : Bytes} {text : String}
    (inverts : cipher.InvertsAt payload.iterations)
    (made : Secret.protect (payload.access cipher seed held) text = .ok secret) :
    payload.Reads cipher held secret text := by
  rw [Reads, ← reveal_access payload cipher seed]
  refine Secret.reveal_of_protect (fun fields isAccess => ?_) made
  unfold access at isAccess
  split at isAccess
  · obtain ⟨second, _, rfl⟩ := Option.map_eq_some_iff.mp isAccess
    exact inverts
  · cases isAccess

theorem reads_of_plain {cipher : Cipher} {text : String}
    (isPlain : payload.doubleEncrypted = false) :
    payload.Reads cipher held secret text ↔ secret = .plain text := by
  rw [Reads, access_of_plain isPlain, Secret.reveal_none_eq_ok]

theorem reads_of_locked {cipher : Cipher} {second text : String}
    (isLocked : payload.doubleEncrypted = true) : payload.Reads cipher (some second) secret text ↔
      (payload.fieldsOf cipher [] second).reveal secret = .ok text := by
  rw [Reads, access_of_locked isLocked, Secret.reveal_some]

theorem settle_lock {fields : FieldCipher} {text : String}
    (locks : (fields.lock (.plain text)).isOk = true) :
    fields.encrypt text = .ok (Secret.settle fields.lock (.plain text)) :=
  Secret.attempt_eq_ok.mpr ⟨locks, rfl⟩

theorem open_recast {cipher : Cipher} {flag : Bool} {hash : Option String}
    (carried : ∀ secret ∈ payload.secrets, ∃ text,
      (payload.recast change flag hash).Reads cipher left (change secret) text) :
    (payload.recast change flag hash).Open cipher left := by
  intro secret isIn
  rw [secrets_recast] at isIn
  obtain ⟨old, wasThere, rfl⟩ := List.mem_map.mp isIn
  exact carried old wasThere

theorem settle_unlock {fields : FieldCipher} {text : String}
    (revealed : fields.reveal secret = .ok text) :
    Secret.settle fields.unlock secret = .plain text := by
  rw [Secret.settle, FieldCipher.unlock, revealed]

end Payload

namespace Edit

variable (edit : Edit services payload held transition next)

include edit

theorem reads_iff {cipher : Cipher} {other : Option String} {text : String} :
    next.Reads cipher other secret text ↔ payload.Reads cipher other secret text := by
  rw [Payload.Reads, Payload.Reads, edit.access]

end Edit

namespace Effect

variable (effect : Effect services payload held transition next left change)

include effect

theorem kept : next.guid = payload.guid ∧ next.sharedKey = payload.sharedKey ∧
    next.iterations = payload.iterations := by
  cases effect with
  | edited edit =>
    obtain ⟨guid, sharedKey, iterations, _⟩ := edit.kept
    exact ⟨guid, sharedKey, iterations⟩
  | locked => exact ⟨rfl, rfl, rfl⟩
  | unlocked => exact ⟨rfl, rfl, rfl⟩

/-- A secret that is read before a change is read after it, in the form that it has then. -/
theorem reads (inverts : services.cipher.InvertsAt payload.iterations) {text : String}
    (isIn : secret ∈ payload.secrets) (reads : payload.Reads services.cipher held secret text) :
    next.Reads services.cipher left (change secret) text := by
  cases effect with
  | edited edit => exact edit.reads_iff.mpr reads
  | @locked second wasPlain consistent locks =>
    rw [Payload.reads_of_plain wasPlain] at reads
    subst reads
    have made := Payload.settle_lock (locks _ isIn)
    have opened := FieldCipher.reveal_of_encrypt inverts made
    rw [Payload.reveal_fieldsOf] at opened
    exact (Payload.reads_of_locked rfl).mpr opened
  | @unlocked second isHeld wasLocked unlocks =>
    subst isHeld
    rw [Payload.reads_of_locked wasLocked] at reads
    exact (Payload.reads_of_plain rfl).mpr (Payload.settle_unlock reads)

/-- Whoever reads everything before a change reads everything after it, as long as it adds no key as
it is given. -/
theorem opens (inverts : services.cipher.InvertsAt payload.iterations)
    (watchOnly : ∀ entry, transition = .addImported entry → entry.key = none)
    (opens : payload.Open services.cipher held) : next.Open services.cipher left := by
  have carried : ∀ secret ∈ payload.secrets, ∃ text,
      next.Reads services.cipher left (change secret) text :=
    fun secret isIn => (opens secret isIn).imp fun _ => effect.reads inverts isIn
  cases effect with
  | edited edit =>
    intro secret isIn
    rcases edit.secrets isIn with wasThere | ⟨text, made⟩ | ⟨entry, isChange, hasKey⟩
    · exact carried secret wasThere
    · exact ⟨text, edit.reads_iff.mpr (Payload.reads_of_protect inverts made)⟩
    · cases hasKey.symm.trans (watchOnly entry isChange)
  | locked => exact Payload.open_recast carried
  | unlocked => exact Payload.open_recast carried

theorem digests (digests : payload.Digests held) : next.Digests left := by
  intro isLocked
  cases effect with
  | edited edit =>
    obtain ⟨_, sharedKey, iterations, flag, digest⟩ := edit.kept
    rw [flag] at isLocked
    simpa only [digest, Payload.hashOf, sharedKey, iterations] using digests isLocked
  | locked => exact ⟨_, rfl, rfl⟩
  | unlocked => cases isLocked

end Effect

/-- A change leaves alone who a wallet is, and how often its passwords are stretched. -/
theorem kept_of_apply (applied : transition.apply services payload = .ok next) :
    next.guid = payload.guid ∧ next.sharedKey = payload.sharedKey ∧
      next.iterations = payload.iterations := by
  obtain ⟨_, _, _, effect⟩ := exists_effect applied
  exact effect.kept

/-! ## Admittance -/

namespace Payload

theorem accepts_of_head {cipher : Cipher} {second : String} {first : Secret}
    (isFirst : payload.secrets.head? = some first) (isEncrypted : first.isEncrypted = true) :
    payload.Accepts cipher second ↔
      ∃ text, (payload.fieldsOf cipher [] second).reveal first = .ok text := by
  have isReference : payload.secrets.find? Secret.isEncrypted = some first := by
    cases isAll : payload.secrets with
    | nil => simp [isAll] at isFirst
    | cons secret others =>
      rw [isAll] at isFirst
      cases isFirst
      exact List.find?_cons_of_pos isEncrypted
  rw [Accepts, isReference]

theorem head_secrets_of_body {body : Body} (isBody : payload.body? = some body) :
    payload.secrets.head? = some body.seed := by
  unfold body? at isBody
  cases bodies : payload.bodies with
  | nil => simp [bodies] at isBody
  | cons first others =>
    rw [bodies] at isBody
    cases isBody
    simp [secrets, bodies, Body.secrets]

/-- An entry of an address without a key leaves the first secret alone, or brings it along. -/
theorem head_secrets_withEntry {entry : ImportedAddress}
    (noKey : ∀ existing, payload.imported? entry.address = some existing → existing.key = none) :
    (payload.withEntry entry).secrets.head? = payload.secrets.head? ∨
      (payload.withEntry entry).secrets.head? = entry.key := by
  obtain ⟨front, back, keys, put⟩ := keys_putEntry_of_noKey noKey
  simp only [secrets, withEntry, keys, put]
  cases ahead : payload.bodies.flatMap Body.secrets ++ front with
  | cons first others => left; simp [← List.append_assoc, ahead]
  | nil =>
    cases entry.key with
    | none => left; simp [← List.append_assoc, ahead]
    | some key => right; simp [← List.append_assoc, ahead]

end Payload

/-- The first secret of an edited payload is the one it was, or was protected for it. -/
theorem Edit.head (edit : Edit services payload held transition next)
    (nonempty : payload.secrets ≠ []) :
    next.secrets.head? = payload.secrets.head? ∨ ∃ secret text, next.secrets.head? = some secret ∧
      Secret.protect (payload.access services.cipher services.seed held) text = .ok secret := by
  cases edit with
  | account isBody => exact .inl (Payload.head_secrets_of_body isBody).symm
  | body isBody => exact .inl (Payload.head_secrets_of_body isBody).symm
  | added isBody => exact .inl (Payload.head_secrets_of_body isBody).symm
  | watched isChange isNew =>
    left
    obtain ⟨first, others, secrets⟩ := List.exists_cons_of_ne_nil nonempty
    simp only [Payload.secrets] at secrets
    simp only [Payload.secrets, Payload.withEntry, Payload.putEntry_of_new isNew,
      List.filterMap_append, ← List.append_assoc, secrets, List.cons_append, List.head?_cons]
  | entry isThere sameKey =>
    left
    simp only [Payload.secrets, Payload.withEntry, Payload.keys_putEntry_of_there isThere sameKey]
  | imported _ made hasKey noKey =>
    refine (Payload.head_secrets_withEntry noKey).imp_right fun isKey => ?_
    exact ⟨_, _, isKey.trans hasKey, made⟩
  | notes => exact .inl rfl
  | rooted _ _ made =>
    obtain ⟨_, _, _, closed, _⟩ := Body.ofEntropy_eq_ok made
    exact .inr ⟨_, _, rfl, closed⟩
  | segwit _ upgraded =>
    left
    rcases Payload.head_of_upgradeBodies upgraded with
      ⟨none, rfl⟩ | ⟨body, others, later, rest, bodies, rfl, upgradedBody⟩
    · simp [Payload.secrets, none]
    · obtain ⟨_, _, _, _, rfl⟩ := Payload.upgradeBody_eq_ok upgradedBody
      simp [Payload.secrets, bodies, Body.secrets]

theorem Effect.admits (effect : Effect services payload held transition next left change)
    (inverts : services.cipher.InvertsAt payload.iterations)
    (consistent : payload.checkEncryption = .ok ())
    (nonempty : payload.secrets ≠ []) (admitted : payload.Admits services.cipher held) :
    next.Admits services.cipher left := by
  cases effect with
  | edited edit =>
    intro isLocked
    have ⟨_, _, _, sameFlag, _⟩ := edit.kept
    have wasLocked : payload.doubleEncrypted = true := sameFlag ▸ isLocked
    obtain ⟨second, rfl, accepted⟩ := admitted wasLocked
    refine ⟨second, rfl, ?_⟩
    rcases edit.head nonempty with sameHead | ⟨secret, text, isFirst, made⟩
    · have isFirst := List.head?_eq_some_head nonempty
      have isEncrypted : (payload.secrets.head nonempty).isEncrypted = true := by
        rw [(Payload.checkEncryption_eq_ok.mp consistent).1 _ (List.head_mem nonempty), wasLocked]
      have ⟨text, opened⟩ := (Payload.accepts_of_head isFirst isEncrypted).mp accepted
      rw [← Payload.reads_of_locked wasLocked, ← edit.reads_iff,
        Payload.reads_of_locked isLocked] at opened
      exact (Payload.accepts_of_head (sameHead.trans isFirst) isEncrypted).mpr ⟨text, opened⟩
    · have opened := edit.reads_iff.mpr (Payload.reads_of_protect inverts made)
      rw [Payload.reads_of_locked isLocked] at opened
      rw [Payload.access_of_locked wasLocked] at made
      exact (Payload.accepts_of_head isFirst (FieldCipher.isEncrypted_of_encrypt made)).mpr
        ⟨text, opened⟩
  | locked wasPlain consistent locks =>
    have effect : Effect services payload held transition _ _ _ := .locked wasPlain consistent locks
    have opens : payload.Open services.cipher held := fun secret isIn =>
      (Payload.plain_of_consistent consistent wasPlain isIn).imp fun _ =>
        (Payload.reads_of_plain wasPlain).mpr
    have digests : payload.Digests held := fun isLocked => nomatch wasPlain.symm.trans isLocked
    exact (Payload.open_recast fun secret isIn => (opens secret isIn).imp fun _ =>
      effect.reads inverts isIn).admits (effect.digests digests)
  | unlocked =>
    intro isLocked
    cases isLocked

end Coffer
