import Coffer.Proofs.Payload.Reading
/-!
# Changes keep a payload valid

A valid payload stays valid through every change. A change leaves one body where the version asks
for one, with an account in use as the default and a default chain for every account; it leaves one
entry for each imported address; and what it stores is encrypted just when the rest is. The result
is never of an older version.
-/

namespace Coffer

variable {services : Services} {payload next : Payload} {held left : Option String}
  {transition : Transition} {change : Secret → Secret} {secret : Secret}

theorem Account.isSome_defaultXpub? {account : Account} :
    account.defaultXpub?.isSome = true ↔
      account.defaultScheme ∈ account.derivations.map Derivation.scheme := by
  rw [← Option.ne_none_iff_isSome, defaultXpub?, ne_eq, xpub?_eq_none, Decidable.not_not]

theorem Account.isSome_defaultXpub?_withDerivation (account : Account) (derivation : Derivation) :
    (account.withDerivation derivation).defaultXpub?.isSome = true := by
  rw [isSome_defaultXpub?]
  exact List.mem_map_of_mem (List.mem_append_right _ (List.mem_singleton.mpr rfl))

namespace Body

variable {body later : Body}

/-- A body stays whole when every account is one that it had or has a default chain, and the default
account is in use. -/
theorem check_of_accounts (whole : body.check = .ok ())
    (accounts : ∀ account ∈ later.accounts, account ∈ body.accounts ∨
      account.defaultXpub?.isSome = true)
    (inUse : ∃ account, later.accounts[later.defaultAccount.toNat]? = some account ∧
      account.archived = false) :
    later.check = .ok () := by
  refine check_eq_ok.mpr ⟨fun account isAccount => ?_, inUse⟩
  exact (accounts account isAccount).elim ((check_eq_ok.mp whole).1 account) id

/-- An account with the same keys may take the place of another one, unless it is the default
account and is taken out of use. -/
theorem check_set {index : UInt64} {old new : Account} (whole : body.check = .ok ())
    (isOld : body.accounts[index.toNat]? = some old)
    (derivations : new.derivations = old.derivations)
    (defaultScheme : new.defaultScheme = old.defaultScheme)
    (inUse : new.archived = true → old.archived = true ∨ index ≠ body.defaultAccount) :
    Body.check { body with accounts := body.accounts.set index.toNat new } = .ok () := by
  obtain ⟨each, account, isDefault, isActive⟩ := check_eq_ok.mp whole
  refine check_of_accounts whole (fun other isIn => ?_) ?_
  · rcases List.mem_or_eq_of_mem_set isIn with wasThere | rfl
    · exact .inl wasThere
    · right
      rw [Account.isSome_defaultXpub?, derivations, defaultScheme, ← Account.isSome_defaultXpub?]
      exact each old (List.mem_of_getElem? isOld)
  · by_cases own : index = body.defaultAccount
    · subst own
      cases isOld.symm.trans isDefault
      refine ⟨new, List.getElem?_set_self (List.getElem?_eq_some_iff.mp isOld).1, ?_⟩
      cases isArchived : new.archived with
      | false => rfl
      | true =>
        rcases inUse isArchived with wasArchived | other
        · cases wasArchived.symm.trans isActive
        · exact (other rfl).elim
    · refine ⟨account, ?_, isActive⟩
      exact (List.getElem?_set_ne fun same => own (UInt64.toNat_inj.mp same)).trans isDefault

theorem check_append {account : Account} (whole : body.check = .ok ())
    (hasChain : account.defaultXpub?.isSome = true) :
    Body.check { body with accounts := body.accounts ++ [account] } = .ok () := by
  obtain ⟨_, default, isDefault, isActive⟩ := check_eq_ok.mp whole
  refine check_of_accounts whole (fun other isIn => ?_) ⟨default, ?_, isActive⟩
  · rcases List.mem_append.mp isIn with wasThere | isNew
    · exact .inl wasThere
    · exact .inr (List.mem_singleton.mp isNew ▸ hasChain)
  · exact (List.getElem?_append_left (List.getElem?_eq_some_iff.mp isDefault).1).trans isDefault

/-- Accounts keep their place, their mark and a default chain when they are given segwit keys. -/
theorem check_of_upgradeBody {fields : Option FieldCipher} (whole : body.check = .ok ())
    (upgraded : Payload.upgradeBody services fields body = .ok later) : later.check = .ok () := by
  obtain ⟨seed, accounts, _, upgradedAll, rfl⟩ := Payload.upgradeBody_eq_ok upgraded
  obtain ⟨length, each⟩ := Payload.addSegwitFrom_eq_ok upgradedAll
  obtain ⟨_, default, isDefault, isActive⟩ := check_eq_ok.mp whole
  refine check_of_accounts whole (fun after isAfter => ?_) ?_
  · obtain ⟨i, inRange, rfl⟩ := List.getElem_of_mem isAfter
    obtain ⟨other, isOther, upgradedOne⟩ := each i _ (List.getElem?_eq_getElem (length ▸ inRange))
    rw [List.getElem?_eq_getElem inRange] at isOther
    cases isOther
    rcases Payload.addSegwit_eq_ok upgradedOne with ⟨_, same⟩ | ⟨_, _, derivation, _, _, same⟩
    · exact .inl (same ▸ List.getElem_mem _)
    · exact .inr (same ▸ Account.isSome_defaultXpub?_withDerivation _ derivation)
  · obtain ⟨after, isAfter, upgradedOne⟩ := each _ default isDefault
    refine ⟨after, isAfter, ?_⟩
    rcases Payload.addSegwit_eq_ok upgradedOne with ⟨_, rfl⟩ | ⟨_, _, derivation, _, _, rfl⟩
    · exact isActive
    · exact isActive

theorem check_of_ofEntropy {keys : KeySource} {fields : Option FieldCipher} {entropy : Bytes}
    {label : String} {scheme : Scheme}
    (made : ofEntropy keys fields entropy label scheme = .ok body) : body.check = .ok () := by
  simp only [ofEntropy, bind_eq_ok, pure_eq_ok, Except.ok.injEq] at made
  obtain ⟨_, _, _, _, _, _, derivation, _, rfl⟩ := made
  refine check_eq_ok.mpr ⟨fun account isAccount => ?_, _, rfl, rfl⟩
  rw [List.mem_singleton.mp isAccount, Account.isSome_defaultXpub?]
  exact List.mem_singleton.mpr rfl

theorem check_recast (whole : body.check = .ok ()) : (body.recast change).check = .ok () := by
  obtain ⟨each, default, isDefault, isActive⟩ := check_eq_ok.mp whole
  refine check_eq_ok.mpr ⟨fun account isAccount => ?_, default.recast change, ?_, isActive⟩
  · obtain ⟨old, wasThere, rfl⟩ := List.mem_map.mp isAccount
    rw [Account.defaultXpub?, Account.xpub?_recast]
    exact each old wasThere
  · rw [recast, List.getElem?_map, isDefault, Option.map_some]

end Body

namespace Payload

theorem checkBodies_withBody {body later : Body} (fit : payload.checkBodies = .ok ())
    (isBody : payload.body? = some body) (whole : body.check = .ok () → later.check = .ok ()) :
    (payload.withBody later).checkBodies = .ok () := by
  rcases checkBodies_eq_ok.mp fit with ⟨isHierarchical, only, isOnly, wasWhole⟩ | ⟨_, none⟩
  · rw [body?, isOnly, List.head?_cons] at isBody
    cases isBody
    exact checkBodies_eq_ok.mpr (.inl ⟨isHierarchical, later, rfl, whole wasWhole⟩)
  · rw [body?, none] at isBody
    cases isBody

theorem isEncrypted_of_protect {cipher : Cipher} {seed : Bytes} {text : String}
    (holds : payload.doubleEncrypted = true → held.isSome = true)
    (made : Secret.protect (payload.access cipher seed held) text = .ok secret) :
    secret.isEncrypted = payload.doubleEncrypted := by
  cases isLocked : payload.doubleEncrypted with
  | false =>
    rw [access_of_plain isLocked] at made
    cases made
    rfl
  | true =>
    obtain ⟨second, rfl⟩ := Option.isSome_iff_exists.mp (holds isLocked)
    rw [access_of_locked isLocked] at made
    exact FieldCipher.isEncrypted_of_encrypt made

theorem checkSucceeds_of_version (newer : payload.version.number ≤ next.version.number)
    (sameGuid : next.guid = payload.guid) : next.checkSucceeds payload = .ok () := by
  rw [checkSucceeds, if_neg (UInt8.not_lt.mpr newer), if_neg (fun differs => differs sameGuid)]

end Payload

namespace Edit

variable (edit : Edit services payload held transition next)

include edit

theorem checkBodies (fit : payload.checkBodies = .ok ()) : next.checkBodies = .ok () := by
  cases edit with
  | account isBody isOld derivations defaultScheme _ inUse =>
    exact Payload.checkBodies_withBody fit isBody fun whole =>
      Body.check_set whole isOld derivations defaultScheme inUse
  | body isBody verified defaultAccount inUse =>
    refine Payload.checkBodies_withBody fit isBody fun whole => ?_
    refine Body.check_of_accounts whole (fun _ => .inl) ?_
    rcases inUse with rfl | isOther
    · exact (Body.check_eq_ok.mp whole).2
    · exact isOther
  | added isBody _ _ schemes defaultScheme =>
    refine Payload.checkBodies_withBody fit isBody fun whole => Body.check_append whole ?_
    rw [Account.isSome_defaultXpub?, schemes, defaultScheme]
    cases payload.version <;> decide
  | watched => exact fit
  | entry => exact fit
  | imported => exact fit
  | notes => exact fit
  | rooted _ _ made =>
    exact Payload.checkBodies_eq_ok.mpr (.inl ⟨rfl, _, rfl, Body.check_of_ofEntropy made⟩)
  | segwit isOld upgraded =>
    rcases Payload.checkBodies_eq_ok.mp fit with ⟨_, body, isOnly, whole⟩ | ⟨isFlat, _⟩
    · simp only [isOnly, List.mapM_cons, List.mapM_nil, bind_eq_ok, pure_eq_ok,
        Except.ok.injEq] at upgraded
      obtain ⟨later, upgradedBody, _, rfl, rfl⟩ := upgraded
      exact Payload.checkBodies_eq_ok.mpr
        (.inl ⟨rfl, later, rfl, Body.check_of_upgradeBody whole upgradedBody⟩)
    · rw [isOld] at isFlat
      cases isFlat

theorem isHierarchical (hierarchical : payload.version.isHierarchical = true) :
    next.version.isHierarchical = true := by
  cases edit with
  | rooted => rfl
  | segwit => rfl
  | _ => exact hierarchical

theorem version_le : payload.version.number ≤ next.version.number := by
  cases edit with
  | rooted _ needed =>
    cases isVersion : payload.version <;> simp_all [Payload.needsAccounts, Version.number]
  | segwit isOld =>
    rw [isOld]
    exact (by decide : Version.v3.number ≤ Version.v4.number)
  | _ => exact UInt8.le_refl _

/-- What an edit brings along is encrypted just when the rest is, so that the secrets stay
consistent. -/
theorem checkEncryption (holds : payload.doubleEncrypted = true → held.isSome = true)
    (watchOnly : ∀ entry, transition = .addImported entry → entry.key = none)
    (consistent : payload.checkEncryption = .ok ()) : next.checkEncryption = .ok () := by
  obtain ⟨same, hasReference⟩ := Payload.checkEncryption_eq_ok.mp consistent
  obtain ⟨_, _, _, flag, hash⟩ := edit.kept
  refine Payload.checkEncryption_eq_ok.mpr ⟨fun secret isIn => ?_, fun isLocked => ?_⟩
  · rw [flag]
    rcases edit.secrets isIn with wasThere | ⟨text, made⟩ | ⟨entry, isChange, hasKey⟩
    · exact same secret wasThere
    · exact Payload.isEncrypted_of_protect holds made
    · cases hasKey.symm.trans (watchOnly entry isChange)
  · rcases hasReference (flag ▸ isLocked) with hashed | nonempty
    · exact .inl (hash ▸ hashed)
    · right
      intro empty
      rcases edit.head nonempty with sameHead | ⟨secret, _, isFirst, _⟩
      · rw [empty, List.head?_nil] at sameHead
        exact nonempty (List.head?_eq_none_iff.mp sameHead.symm)
      · rw [empty] at isFirst
        cases isFirst

end Edit

theorem Payload.checkBodies_recast {flag : Bool} {hash : Option String}
    (fit : payload.checkBodies = .ok ()) :
    (payload.recast change flag hash).checkBodies = .ok () := by
  refine checkBodies_eq_ok.mpr ((checkBodies_eq_ok.mp fit).imp ?_ ?_)
  · rintro ⟨isHierarchical, body, isOnly, whole⟩
    exact ⟨isHierarchical, body.recast change, by rw [recast, isOnly]; rfl, Body.check_recast whole⟩
  · rintro ⟨isFlat, none⟩
    exact ⟨isFlat, by rw [recast, none]; rfl⟩

/-- A valid payload with other secrets is valid when they are all encrypted or all in the clear, as
it says, and its second password can be told from others. -/
theorem Payload.valid_recast {flag : Bool} {hash : Option String}
    (valid : payload.validate = .ok ())
    (consistent : (payload.recast change flag hash).checkEncryption = .ok ()) :
    (payload.recast change flag hash).validate = .ok () := by
  obtain ⟨named, keyed, sound⟩ := validate_eq_ok.mp valid
  have fit : (payload.recast change flag hash).checkBodies = .ok () :=
    checkBodies_recast (checkBodies_eq_ok.mpr sound.bodies)
  refine validate_eq_ok.mpr ⟨named, keyed, sound.positive, checkBodies_eq_ok.mp fit, ?_, consistent⟩
  rw [recast, List.map_map]
  exact sound.distinct

namespace Effect

variable (effect : Effect services payload held transition next left change)

include effect

theorem valid (holds : payload.doubleEncrypted = true → held.isSome = true)
    (watchOnly : ∀ entry, transition = .addImported entry → entry.key = none)
    (valid : payload.validate = .ok ()) : next.validate = .ok () := by
  cases effect with
  | edited edit =>
    obtain ⟨named, keyed, sound⟩ := Payload.validate_eq_ok.mp valid
    obtain ⟨guid, sharedKey, iterations, _⟩ := edit.kept
    refine Payload.validate_eq_ok.mpr ⟨guid ▸ named, sharedKey ▸ keyed,
      iterations ▸ sound.positive, ?_, edit.distinct sound.distinct,
      edit.checkEncryption holds watchOnly sound.consistent⟩
    exact Payload.checkBodies_eq_ok.mp
      (edit.checkBodies (Payload.checkBodies_eq_ok.mpr sound.bodies))
  | locked _ _ locks => exact Payload.valid_recast valid (Payload.consistent_of_locks locks).2
  | unlocked _ _ unlocks =>
    exact Payload.valid_recast valid (Payload.consistent_of_unlocks unlocks).2

theorem isHierarchical (hierarchical : payload.version.isHierarchical = true) :
    next.version.isHierarchical = true := by
  cases effect with
  | edited edit => exact edit.isHierarchical hierarchical
  | locked => exact hierarchical
  | unlocked => exact hierarchical

theorem checkSucceeds : next.checkSucceeds payload = .ok () := by
  cases effect with
  | edited edit => exact Payload.checkSucceeds_of_version edit.version_le edit.kept.1
  | locked => exact Payload.checkSucceeds_of_version (UInt8.le_refl _) rfl
  | unlocked => exact Payload.checkSucceeds_of_version (UInt8.le_refl _) rfl

end Effect

/-- A change of a valid payload that adds no key as it is given makes a valid payload, which may
replace it. -/
theorem Payload.valid_of_apply (valid : payload.validate = .ok ())
    (applied : transition.apply services payload = .ok next)
    (watchOnly : ∀ entry, transition = .addImported entry → entry.key = none) :
    next.validate = .ok () ∧ next.checkSucceeds payload = .ok () := by
  obtain ⟨_, _, holds, effect⟩ := exists_effect applied
  exact ⟨effect.valid holds watchOnly valid, effect.checkSucceeds⟩

namespace Payload

variable {guid sharedKey : String} {iterations : UInt32}

theorem valid_flat (named : guid ≠ "") (keyed : sharedKey ≠ "") (positive : 0 < iterations) :
    (flat guid sharedKey iterations).validate = .ok () :=
  validate_eq_ok.mpr ⟨named, keyed, positive, .inr ⟨rfl, rfl⟩, List.nodup_nil, rfl⟩

theorem valid_hierarchical {keys : KeySource} {label : String} {entropy : Bytes} (named : guid ≠ "")
    (keyed : sharedKey ≠ "") (positive : 0 < iterations)
    (made : hierarchical keys guid sharedKey label entropy iterations = .ok payload) :
    payload.validate = .ok () := by
  obtain ⟨_, edit⟩ := exists_edit_of_hierarchical made
  exact (Effect.edited edit).valid (fun isLocked => nomatch isLocked) (fun _ isOther =>
    nomatch isOther) (valid_flat named keyed positive)

end Payload

end Coffer
