import Coffer.Proofs.Payload.Reading
/-!
# One second password for all secrets

Only the first encrypted secret, or the digest where there is none, is tried before secrets are
added under the second password of the caller. That is enough: as long as the cipher and the digest
tell the second passwords apart that are ever tried, every secret of a wallet is encrypted under the
one that was set last.
-/

namespace Coffer

/-! ## Telling second passwords apart -/

/-- The cipher refuses what it encrypted under another of the known second passwords, and no two of
them have the same digest, beside a shared key and at a count of stretchings. -/
structure Cipher.TellsApart (cipher : Cipher) (known : String → Prop) (sharedKey : String)
    (iterations : UInt32) : Prop where
  refuses : ∀ ⦃second other : String⦄, known second → known other → other ≠ second →
    ∀ (seed plain bytes : Bytes),
      cipher.encrypt seed plain (sharedKey ++ second) iterations = .ok bytes →
      cipher.decrypt bytes (sharedKey ++ other) iterations = .error .decryption
  digests : ∀ ⦃second other : String⦄, known second → known other →
    secondPasswordHash sharedKey other iterations = secondPasswordHash sharedKey second iterations →
      other = second

/-- Every second password that the change is given is a known one. -/
def Transition.IsGiven (known : String → Prop) (transition : Transition) : Prop :=
  (∀ second, transition.given? = some (some second) → known second) ∧
    ∀ second, transition = .setSecond second → known second

/-- The wallets that come about from new ones by changes with one cipher, each with the second
password that was set last, if it has not been dropped. Any known second password may be given to a
change. -/
inductive Payload.Ruled (cipher : Cipher) (known : String → Prop) : Payload → Option String → Prop
  | flat (guid sharedKey : String) {iterations : UInt32} (positive : 0 < iterations) :
      Ruled cipher known (flat guid sharedKey iterations) none
  | hierarchical {keys : KeySource} {guid sharedKey label : String} {entropy : Bytes}
      {iterations : UInt32} {payload : Payload} (positive : 0 < iterations)
      (made : hierarchical keys guid sharedKey label entropy iterations = .ok payload) :
      Ruled cipher known payload none
  | change {payload next : Payload} {held : Option String} {services : Services}
      {transition : Transition} (ruled : Ruled cipher known payload held)
      (sameCipher : services.cipher = cipher) (isGiven : transition.IsGiven known)
      (watchOnly : ∀ entry, transition = .addImported entry → entry.key = none)
      (applied : transition.apply services payload = .ok next) :
      Ruled cipher known next (transition.leaves held)

variable {services : Services} {cipher : Cipher} {known : String → Prop} {payload next : Payload}
  {held left : Option String} {transition : Transition} {change : Secret → Secret} {second : String}

/-! ## Wallets under one second password -/

namespace Payload

/-- Where the wallet has a second password, that is the held one: the digest is that of it, and
every secret was encrypted under it. -/
structure Under (payload : Payload) (cipher : Cipher) (held : Option String) : Prop where
  digests : payload.Digests held
  encrypted : payload.doubleEncrypted = true → ∀ second, held = some second →
    ∀ secret ∈ payload.secrets, ∃ seed text, (payload.fieldsOf cipher seed second).encrypt
    text = .ok secret

namespace Under

variable (under : payload.Under cipher (some second)) (isLocked : payload.doubleEncrypted = true)

include under isLocked

theorem digest : payload.secondHash = some (payload.hashOf second) := by
  obtain ⟨_, same, digest⟩ := under.digests isLocked
  cases same
  exact digest

theorem opens (inverts : cipher.InvertsAt payload.iterations) {secret : Secret}
    (isIn : secret ∈ payload.secrets) :
    secret.isEncrypted = true ∧ ∃ text, (payload.fieldsOf cipher [] second).reveal secret =
      .ok text := by
  obtain ⟨seed, text, made⟩ := under.encrypted isLocked second rfl secret isIn
  refine ⟨FieldCipher.isEncrypted_of_encrypt made, text, ?_⟩
  rw [← reveal_fieldsOf payload cipher seed]
  exact FieldCipher.reveal_of_encrypt inverts made

theorem refuses (tellsApart : cipher.TellsApart known payload.sharedKey payload.iterations)
    (isKnown : known second) {other : String} (otherKnown : known other) (differs : other ≠ second)
    {secret : Secret} (isIn : secret ∈ payload.secrets) :
    (payload.fieldsOf cipher [] other).reveal secret =
      .error (.credential .invalidSecondPassword) := by
  obtain ⟨seed, text, made⟩ := under.encrypted isLocked second rfl secret isIn
  obtain ⟨field, rfl, isField⟩ := FieldCipher.encrypt_eq_ok made
  unfold Cipher.encryptField at isField
  split at isField
  · rename_i bytes encrypted
    cases isField
    have refused := tellsApart.refuses isKnown otherKnown differs _ _ _ encrypted
    simp only [FieldCipher.reveal, Cipher.decryptField, Hex.decode_encode, fieldsOf, refused]
  · cases isField

theorem not_accepts (tellsApart : cipher.TellsApart known payload.sharedKey payload.iterations)
    (isKnown : known second) {other : String} (otherKnown : known other)
    (differs : other ≠ second) : ¬ payload.Accepts cipher other := by
  unfold Accepts
  cases found : payload.secrets.find? Secret.isEncrypted with
  | some reference =>
    rintro ⟨text, opened⟩
    rw [under.refuses isLocked tellsApart isKnown otherKnown differs
      (List.mem_of_find?_eq_some found)] at opened
    cases opened
  | none =>
    intro sameDigest
    rw [under.digest isLocked, Option.some.injEq] at sameDigest
    exact differs (tellsApart.digests isKnown otherKnown sameDigest.symm)

/-- Of the known second passwords, only the held one is let in. The others, and none, are refused as
wrong. -/
theorem fieldCipher (inverts : cipher.InvertsAt payload.iterations)
    (tellsApart : cipher.TellsApart known payload.sharedKey payload.iterations)
    (isKnown : known second) {given : Option String} (givenKnown : ∀ other, given = some other →
      known other) (seed : Bytes) :
    payload.fieldCipher cipher seed given =
      if given = some second then .ok (some (payload.fieldsOf cipher seed second))
      else .error (.credential .invalidSecondPassword) := by
  unfold Payload.fieldCipher
  simp only [isLocked, Bool.not_true, Bool.false_eq_true, if_false,
    reveal_fieldsOf payload cipher seed]
  cases given with
  | none => rfl
  | some other =>
    have otherKnown := givenKnown other rfl
    simp only [Option.some.injEq]
    cases found : payload.secrets.find? Secret.isEncrypted with
    | some reference =>
      have isIn := List.mem_of_find?_eq_some found
      by_cases same : other = second
      · subst same
        obtain ⟨_, text, opened⟩ := under.opens isLocked inverts isIn
        simp only [opened, if_pos]
      · simp only [under.refuses isLocked tellsApart isKnown otherKnown same isIn, if_neg same]
    | none =>
      rw [under.digest isLocked]
      by_cases same : other = second
      · subst same
        simp only [if_pos]
      · have differs : ¬ some (payload.hashOf second) = some (payload.hashOf other) :=
          fun sameHash =>
          same (tellsApart.digests isKnown otherKnown (Option.some.inj sameHash).symm)
        simp only [if_neg same, if_neg differs]

theorem checkSecond (inverts : cipher.InvertsAt payload.iterations)
    (tellsApart : cipher.TellsApart known payload.sharedKey payload.iterations)
    (isKnown : known second) {given : Option String} (givenKnown : ∀ other, given = some other →
      known other) :
    payload.checkSecond cipher given =
      if given = some second then .ok () else .error (.credential .invalidSecondPassword) := by
  rw [Payload.checkSecond, under.fieldCipher isLocked inverts tellsApart isKnown givenKnown]
  by_cases same : given = some second
  · simp only [if_pos same]
  · simp only [if_neg same]

end Under

theorem Under.eq_of_admits (under : payload.Under cipher held)
    (tellsApart : cipher.TellsApart known payload.sharedKey payload.iterations)
    (heldKnown : ∀ second, held = some second → known second) {given : Option String}
    (givenKnown : ∀ other, given = some other → known other)
    (isLocked : payload.doubleEncrypted = true)
    (admitted : payload.Admits cipher given) : given = held := by
  obtain ⟨second, rfl, _⟩ := under.digests isLocked
  obtain ⟨other, rfl, accepted⟩ := admitted isLocked
  rw [Option.some.injEq]
  exact Decidable.byContradiction fun differs =>
    under.not_accepts isLocked tellsApart (heldKnown second rfl) (givenKnown other rfl)
      differs accepted

/-- A change that succeeds and is given known second passwords is given the held one, where it asks
for it. -/
theorem Under.fits (under : payload.Under services.cipher held)
    (tellsApart : services.cipher.TellsApart known payload.sharedKey payload.iterations)
    (heldKnown : ∀ second, held = some second → known second) (isGiven : transition.IsGiven known)
    (applied : transition.apply services payload = .ok next) : transition.Fits payload held :=
  fun isLocked _ isAsked => under.eq_of_admits tellsApart heldKnown
    (fun other isOther => isGiven.1 other (isOther ▸ isAsked)) isLocked
    (Transition.admits_of_apply isAsked applied)

end Payload

/-! ## What changes keep -/

/-- A second password that a wallet has after a change is set by it, or was there before and
stays. -/
theorem Transition.leaves_locked (applied : transition.apply services payload = .ok next)
    (isLocked : next.doubleEncrypted = true) :
    (∃ second, transition = .setSecond second) ∨
      payload.doubleEncrypted = true ∧ ∀ held, transition.leaves held = held := by
  cases transition with
  | setSecond second => exact .inl ⟨second, rfl⟩
  | unsetSecond =>
    obtain ⟨_, _, _, rfl⟩ := Payload.unsetSecond_eq_ok.mp applied
    cases isLocked
  | _ =>
    obtain ⟨_, _, fits⟩ := exists_fits applied
    obtain ⟨_, _, _, flag, _⟩ := (edit_of_apply fits applied trivial).kept
    exact .inr ⟨flag ▸ isLocked, fun _ => rfl⟩

namespace Transition

theorem isGiven_setSecond (isKnown : known second) : (setSecond second).IsGiven known := by
  refine ⟨fun _ isAsked => (nomatch isAsked), ?_⟩
  rintro _ ⟨⟩
  exact isKnown

theorem isGiven_unsetSecond (isKnown : known second) : (unsetSecond second).IsGiven known := by
  refine ⟨?_, fun _ isOther => nomatch isOther⟩
  rintro _ ⟨⟩
  exact isKnown

theorem isGiven_importKey {wif : String} {label : Option String} {device : Device}
    {given : Option String} (isKnown : ∀ other, given = some other → known other) :
    (importKey wif label device given).IsGiven known :=
  ⟨fun other isAsked => isKnown other (Option.some.inj isAsked), fun _ isOther => nomatch isOther⟩

/-- What is held after a change that is given known second passwords is a known one. -/
theorem IsGiven.known_leaves (isGiven : transition.IsGiven known)
    (heldKnown : ∀ second, held = some second → known second) :
    ∀ second, transition.leaves held = some second → known second := by
  intro second isHeld
  cases transition with
  | setSecond => exact isGiven.2 second (congrArg _ (Option.some.inj isHeld))
  | unsetSecond => cases isHeld
  | _ => exact heldKnown second isHeld

end Transition

/-- What a change adds is encrypted like the rest, and what it locks is locked as a whole. -/
theorem Effect.keepsUnder (effect : Effect services payload held transition next left change)
    (watchOnly : ∀ entry, transition = .addImported entry → entry.key = none)
    (under : payload.Under services.cipher held) : next.Under services.cipher left := by
  obtain ⟨_, sharedKey, iterations⟩ := effect.kept
  refine ⟨effect.digests under.digests, fun isLocked second isHeld secret isIn => ?_⟩
  have sameFields (seed : Bytes) : next.fieldsOf services.cipher seed second =
      payload.fieldsOf services.cipher seed second := by
    simp only [Payload.fieldsOf, sharedKey, iterations]
  simp only [sameFields]
  cases effect with
  | edited edit =>
    subst isHeld
    obtain ⟨_, _, _, flag, _⟩ := edit.kept
    have wasLocked : payload.doubleEncrypted = true := flag ▸ isLocked
    rcases edit.secrets isIn with wasThere | ⟨text, made⟩ | ⟨entry, isChange, hasKey⟩
    · exact under.encrypted wasLocked second rfl secret wasThere
    · rw [Payload.access_of_locked wasLocked] at made
      exact ⟨_, text, made⟩
    · cases hasKey.symm.trans (watchOnly entry isChange)
  | locked wasPlain consistent locks =>
    cases isHeld
    rw [Payload.secrets_recast] at isIn
    obtain ⟨old, wasThere, rfl⟩ := List.mem_map.mp isIn
    obtain ⟨text, rfl⟩ := Payload.plain_of_consistent consistent wasPlain wasThere
    exact ⟨_, text, Payload.settle_lock (locks _ wasThere)⟩
  | unlocked => cases isLocked

namespace Payload

theorem under_of_plain (isPlain : payload.doubleEncrypted = false) : payload.Under cipher held :=
  have neverLocked : ¬ payload.doubleEncrypted = true := by simp [isPlain]
  ⟨fun isLocked => (neverLocked isLocked).elim, fun isLocked => (neverLocked isLocked).elim⟩

theorem under_hierarchical {keys : KeySource} {guid sharedKey label : String} {entropy : Bytes}
    {iterations : UInt32} (made : hierarchical keys guid sharedKey label entropy iterations =
      .ok payload) : payload.Under cipher held := by
  obtain ⟨_, edit⟩ := exists_edit_of_hierarchical made
  obtain ⟨_, _, _, flag, _⟩ := edit.kept
  exact under_of_plain flag

/-- A change that is given known second passwords keeps a wallet under the one that was set last. -/
theorem Under.of_apply (under : payload.Under services.cipher held)
    (tellsApart : services.cipher.TellsApart known payload.sharedKey payload.iterations)
    (heldKnown : ∀ second, held = some second → known second) (isGiven : transition.IsGiven known)
    (watchOnly : ∀ entry, transition = .addImported entry → entry.key = none)
    (applied : transition.apply services payload = .ok next) :
    next.Under services.cipher (transition.leaves held) := by
  obtain ⟨_, effect⟩ := effect_of_apply (under.fits tellsApart heldKnown isGiven applied) applied
  exact effect.keepsUnder watchOnly under

namespace Ruled

theorem isKnown (ruled : payload.Ruled cipher known held) : ∀ second, held = some second →
    known second := by
  induction ruled with
  | flat => exact fun _ isHeld => nomatch isHeld
  | hierarchical => exact fun _ isHeld => nomatch isHeld
  | change _ _ isGiven _ _ ih => exact isGiven.known_leaves ih

theorem positive (ruled : payload.Ruled cipher known held) : 0 < payload.iterations := by
  induction ruled with
  | flat _ _ positive => exact positive
  | hierarchical positive made =>
    obtain ⟨_, edit⟩ := exists_edit_of_hierarchical made
    exact edit.kept.2.2.1 ▸ positive
  | change _ _ _ _ applied ih => exact (kept_of_apply applied).2.2 ▸ ih

theorem under (ruled : payload.Ruled cipher known held)
    (tellsApart : cipher.TellsApart known payload.sharedKey payload.iterations) :
    payload.Under cipher held := by
  induction ruled with
  | flat => exact under_of_plain rfl
  | hierarchical _ made => exact under_hierarchical made
  | change ruled sameCipher isGiven watchOnly applied ih =>
    subst sameCipher
    obtain ⟨_, sharedKey, iterations⟩ := kept_of_apply applied
    rw [sharedKey, iterations] at tellsApart
    exact (ih tellsApart).of_apply tellsApart ruled.isKnown isGiven watchOnly applied

/-- In a wallet with a second password every secret is encrypted and opens under the one that was
set last. That one is taken for right and every other known one for wrong, as is none, whether there
is a secret to try it on or only the digest. Whatever else asks for the second password does nothing
and reveals nothing without it. -/
theorem one_password_rules (ruled : payload.Ruled cipher known held) (inverts : cipher.Inverts)
    (tellsApart : cipher.TellsApart known payload.sharedKey payload.iterations)
    (isLocked : payload.doubleEncrypted = true) :
    ∃ second, held = some second ∧ known second ∧
      (∀ secret ∈ payload.secrets, secret.isEncrypted = true ∧
        ∃ text, (payload.fieldsOf cipher [] second).reveal secret = .ok text) ∧
      ∀ given : Option String, (∀ other, given = some other → known other) →
        (payload.checkSecond cipher given =
          if given = some second then .ok () else .error (.credential .invalidSecondPassword)) ∧
        (given ≠ some second →
          (∀ (services : Services) (transition : Transition) (next : Payload),
            services.cipher = cipher → transition.given? = some given →
            transition.apply services payload ≠ .ok next) ∧
          (∀ phrase, payload.revealPhrase cipher given ≠ .ok phrase) ∧
          (∀ index scheme text, payload.revealXpriv cipher index scheme given ≠ .ok text) ∧
          ∀ address text, payload.revealImported cipher address given ≠ .ok text) := by
  have under := ruled.under tellsApart
  have invertsAt := inverts.at ruled.positive
  obtain ⟨second, rfl, _⟩ := under.digests isLocked
  have isKnown := ruled.isKnown second rfl
  refine ⟨second, rfl, isKnown, fun secret isIn => under.opens isLocked invertsAt isIn,
    fun given givenKnown => ⟨?_, ?_⟩⟩
  · exact under.checkSecond isLocked invertsAt tellsApart isKnown givenKnown
  · intro differs
    have refused : ¬ payload.Admits cipher given := fun admitted =>
      differs (under.eq_of_admits tellsApart ruled.isKnown givenKnown isLocked admitted)
    refine ⟨?_, fun _ revealed => ?_, fun _ _ _ revealed => ?_, fun _ _ revealed => ?_⟩
    · rintro services transition next rfl isAsked applied
      exact refused (Transition.admits_of_apply isAsked applied)
    · exact refused (revealPhrase_eq_ok.mp revealed).1
    · exact refused (revealXpriv_eq_ok.mp revealed).1
    · exact refused (revealImported_eq_ok.mp revealed).1

end Ruled

end Payload

/-! ## A wallet with one imported key -/

theorem Toy.cipher_tellsApart {sharedKey : String} {iterations : UInt32}
    (fingerprints : ∀ second other, known second → known other → other ≠ second →
      fingerprint (Bytes.ofText (sharedKey ++ second)) ≠
        fingerprint (Bytes.ofText (sharedKey ++ other)))
    (digests : ∀ second other, known second → known other → other ≠ second →
      secondPasswordHash sharedKey other iterations ≠
        secondPasswordHash sharedKey second iterations) :
    Toy.cipher.TellsApart known sharedKey iterations := by
  constructor
  case refuses =>
    intro second other isKnown otherKnown differs seed plain bytes encrypted
    simp only [Toy.cipher] at encrypted
    split at encrypted
    · cases encrypted
    · cases encrypted
      have marks : (Bytes.ofNat 4 iterations.toNat ++
          fingerprint (Bytes.ofText (sharedKey ++ second))).length = 8 := by
        rw [List.length_append, Bytes.length_ofNat, length_fingerprint]
      have long : ¬ (Bytes.ofNat 4 iterations.toNat ++
          fingerprint (Bytes.ofText (sharedKey ++ second)) ++
          mask (Bytes.ofText (sharedKey ++ second)) plain).length < 8 := by
        rw [List.length_append, marks]
        omega
      have unlike := fingerprints second other isKnown otherKnown differs
      simp only [Toy.cipher, if_neg long]
      rw [List.take_left' marks, if_neg fun same => unlike (List.append_cancel_left same)]
  case digests =>
    intro second other isKnown otherKnown sameDigest
    exact Decidable.byContradiction fun differs =>
      digests second other isKnown otherKnown differs sameDigest

def Payload.withCold : Payload :=
  { flat "guid" "key" 1 with
    imported :=
      [.withKey "addr-legacy-cold" (.plain "wif-cold") ⟨"android", "1"⟩ Toy.services.now] }

/-- A key is imported into a new wallet and a second password is set. Then the key opens under it,
and another second password is refused. -/
theorem Payload.Ruled.one_password_rules_imported : ∃ (payload : Payload) (key : Secret),
    payload.Ruled Toy.cipher (fun text => text = "second" ∨ text = "other") (some "second") ∧
      payload.doubleEncrypted = true ∧ key ∈ payload.secrets ∧
      (∃ text, (payload.fieldsOf Toy.cipher [] "second").reveal key = .ok text) ∧
      payload.checkSecond Toy.cipher (some "other") =
        .error (.credential .invalidSecondPassword) := by
  have isImported : (Transition.importKey "wif-cold" none ⟨"android", "1"⟩ none).apply Toy.services
      (Payload.flat "guid" "key" 1) = .ok withCold := rfl
  obtain ⟨payload, applied⟩ : ∃ payload, (Transition.setSecond "second").apply Toy.services
      withCold = .ok payload :=
    exists_of_isOk (by decide +kernel)
  have ruled : payload.Ruled Toy.cipher (fun text => text = "second" ∨
      text = "other") (some "second") := by
    refine .change (.change (.flat "guid" "key" (by decide)) rfl (Transition.isGiven_importKey ?_)
      ?_ isImported) rfl (Transition.isGiven_setSecond (.inl rfl)) ?_ applied
    · exact fun _ isAsked => nomatch isAsked
    · exact fun _ isOther => nomatch isOther
    · exact fun _ isOther => nomatch isOther
  have isLocked : withCold.setSecond Toy.cipher Toy.services.seed "second" = .ok payload := applied
  obtain ⟨_, _, _, _, rfl⟩ := setSecond_eq_ok.mp isLocked
  have tellsApart : Toy.cipher.TellsApart (fun text => text = "second" ∨
      text = "other") "key" 1 := by
    apply Toy.cipher_tellsApart
    · rintro _ _ (rfl | rfl) (rfl | rfl) <;> decide +kernel
    · rintro _ _ (rfl | rfl) (rfl | rfl) <;> decide +kernel
  obtain ⟨second, isHeld, _, opens, rules⟩ :=
    one_password_rules ruled Toy.cipher_inverts tellsApart rfl
  cases isHeld
  have isIn : Secret.settle (withCold.fieldsOf Toy.cipher Toy.services.seed "second").lock
      (.plain "wif-cold") ∈
      (withCold.recast (Secret.settle
        (withCold.fieldsOf Toy.cipher Toy.services.seed "second").lock) true
        (some (withCold.hashOf "second"))).secrets := by
    rw [secrets_recast]
    exact List.mem_map_of_mem (List.mem_singleton.mpr rfl)
  have isRefused :=
    (rules (some "other") fun other isOther => .inr (Option.some.inj isOther).symm).1
  exact ⟨_, _, ruled, rfl, isIn, (opens _ isIn).2, isRefused⟩

end Coffer
