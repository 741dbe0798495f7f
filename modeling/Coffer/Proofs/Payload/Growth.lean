import Coffer.Proofs.Cipher
import Coffer.Proofs.Payload.Numbering
import Coffer.Proofs.Payload.OnePassword
/-!
# Keys of a grown wallet

A wallet that was made from entropy and changed ever since reveals, under its second password, the
phrase of that entropy, for each account the keys that the entropy has at its position, and for each
imported address a key of it.
-/

namespace Coffer

variable {services : Services} {payload next : Payload} {held left : Option String}
  {transition : Transition} {change : Secret → Secret} {cipher : Cipher} {keys : KeySource}
  {entropy : Bytes} {known : String → Prop}

/-! ## Grown wallets -/

/-- The change adds no key as it is given, and accounts for the given entropy at most. -/
def Transition.KeepsTo (entropy : Bytes) : Transition → Prop
  | addImported entry => entry.key = none
  | upgradeToAccounts other _ _ => other = entropy
  | _ => True

/-- The wallets that grow from entropy by changes with one cipher and one source of keys, each with
the second password that was set last. Any known second password may be given to a change. -/
inductive Payload.Grown (cipher : Cipher) (keys : KeySource) (entropy : Bytes)
    (known : String → Prop) : Payload → Option String → Prop
  | flat (guid sharedKey : String) (iterations : UInt32) :
      Grown cipher keys entropy known (flat guid sharedKey iterations) none
  | hierarchical {guid sharedKey label : String} {iterations : UInt32} {payload : Payload}
      (made : hierarchical keys guid sharedKey label entropy iterations = .ok payload) :
      Grown cipher keys entropy known payload none
  | change {payload next : Payload} {held : Option String} {transition : Transition} (seed : Bytes)
      (now : Instant) (grown : Grown cipher keys entropy known payload held)
      (keeps : transition.KeepsTo entropy) (isGiven : transition.IsGiven known)
      (applied : transition.apply ⟨cipher, keys, seed, now⟩ payload = .ok next) :
      Grown cipher keys entropy known next (transition.leaves held)

/-! ## What stays true -/

/-- The keys of a derivation are those that entropy has under a number, the private one as it is
read. -/
def Payload.Derives (payload : Payload) (cipher : Cipher) (keys : KeySource) (entropy : Bytes)
    (held : Option String) (number : UInt32) (derivation : Derivation) : Prop :=
  ∃ seed pair, Phrase.seedOf entropy = .ok seed ∧
    keys.accountKeys seed derivation.scheme number = .ok pair ∧
    derivation.xpub = pair.xpub ∧ payload.Reads cipher held derivation.xpriv pair.xpriv

/-- A wallet whose secrets are what they are taken for: the entropy, the keys that it has at the
position of their account, and keys of the address that they are imported for. -/
structure Payload.RootedIn (payload : Payload) (cipher : Cipher) (keys : KeySource)
    (entropy : Bytes) (held : Option String) : Prop where
  hierarchical : payload.body?.isSome = payload.version.isHierarchical
  seed : ∀ body, payload.body? = some body →
    payload.Reads cipher held body.seed (Hex.encode entropy) ∧
    (Phrase.seedOf entropy).isOk = true
  numbered : payload.Numbered (payload.Derives cipher keys entropy held)
  imports : ∀ entry ∈ payload.imported, ∀ key, entry.key = some key →
    ∃ wif, payload.Reads cipher held key wif ∧ keys.addressForKey wif .legacy = .ok entry.address
  distinct : (payload.imported.map ImportedAddress.address).Nodup
  opens : payload.Open cipher held
  digests : payload.Digests held

theorem Phrase.reveal_of_seedOf (stretches : (seedOf entropy).isOk = true) :
    ∃ phrase, reveal entropy = .ok phrase := by
  unfold seedOf seed at stretches
  unfold reveal
  cases spelled : ofEntropy entropy with
  | error fault =>
    rw [spelled] at stretches
    cases stretches
  | ok phrase => exact ⟨phrase, rfl⟩

theorem Body.seedOf_of_revealSeed {body : Body} {fields : Option FieldCipher} {seed : Bytes}
    (reads : body.seed.reveal fields = .ok (Hex.encode entropy))
    (revealed : body.revealSeed fields = .ok seed) : Phrase.seedOf entropy = .ok seed := by
  simp only [revealSeed, revealEntropy, reads, bind_ok, Hex.decode_encode, pure_eq_ok,
    liftError_eq_ok] at revealed
  exact revealed

theorem Body.revealSeed_of_plain {body : Body} {seed : Bytes}
    (isPlain : body.seed = .plain (Hex.encode entropy))
    (stretched : Phrase.seedOf entropy = .ok seed) : body.revealSeed none = .ok seed := by
  simp only [revealSeed, revealEntropy, isPlain, Secret.reveal, bind_ok, Hex.decode_encode,
    pure_eq_ok, stretched, liftError_ok]

namespace Edit

variable (edit : Edit services payload held transition next)

include edit

theorem hierarchical (hierarchical : payload.body?.isSome = payload.version.isHierarchical) :
    next.body?.isSome = next.version.isHierarchical := by
  cases edit with
  | account isBody => exact (isBody ▸ hierarchical :)
  | body isBody => exact (isBody ▸ hierarchical :)
  | added isBody => exact (isBody ▸ hierarchical :)
  | watched => exact hierarchical
  | entry => exact hierarchical
  | imported => exact hierarchical
  | notes => exact hierarchical
  | rooted => rfl
  | segwit isOld upgraded =>
    rcases Payload.head_of_upgradeBodies upgraded with ⟨none, rfl⟩ | ⟨_, _, _, _, _, rfl, _⟩
    · rw [Payload.body?, none, isOld] at hierarchical
      cases hierarchical
    · rfl

/-- The seed of the body in use is the one it had, or that of the entropy that the change
brought. -/
theorem seed {later : Body} (isLater : next.body? = some later) :
    (∃ body, payload.body? = some body ∧ later.seed = body.seed) ∨
      ∃ entropy label second, transition = .upgradeToAccounts entropy label second ∧
        Secret.protect (payload.access services.cipher services.seed held)
          (Hex.encode entropy) = .ok later.seed ∧
        (Phrase.seedOf entropy).isOk = true := by
  cases edit with
  | account isBody => cases isLater; exact .inl ⟨_, isBody, rfl⟩
  | body isBody => cases isLater; exact .inl ⟨_, isBody, rfl⟩
  | added isBody => cases isLater; exact .inl ⟨_, isBody, rfl⟩
  | watched => exact .inl ⟨later, isLater, rfl⟩
  | entry => exact .inl ⟨later, isLater, rfl⟩
  | imported => exact .inl ⟨later, isLater, rfl⟩
  | notes => exact .inl ⟨later, isLater, rfl⟩
  | rooted isChange _ made =>
    cases isLater
    obtain ⟨_, _, stretched, closed, _⟩ := Body.ofEntropy_eq_ok made
    exact .inr ⟨_, _, _, isChange, closed, stretched ▸ rfl⟩
  | segwit _ upgraded =>
    rcases Payload.head_of_upgradeBodies upgraded with
      ⟨_, rfl⟩ | ⟨body, _, _, _, bodies, rfl, upgradedBody⟩
    · cases isLater
    · cases isLater
      obtain ⟨_, _, _, _, rfl⟩ := Payload.upgradeBody_eq_ok upgradedBody
      exact .inl ⟨body, Payload.body?_of_bodies bodies, rfl⟩

/-- An edited wallet has imported what it had, something only watched, or a key of its address. -/
theorem imports {entry : ImportedAddress} (isIn : entry ∈ next.imported) {key : Secret}
    (hasKey : entry.key = some key) :
    (∃ old ∈ payload.imported, old.address = entry.address ∧ old.key = some key) ∨
      transition = .addImported entry ∨
      ∃ wif, services.keys.addressForKey wif .legacy = .ok entry.address ∧
        Secret.protect (payload.access services.cipher services.seed held) wif = .ok key := by
  cases edit with
  | account => exact .inl ⟨entry, isIn, rfl, hasKey⟩
  | body => exact .inl ⟨entry, isIn, rfl, hasKey⟩
  | added => exact .inl ⟨entry, isIn, rfl, hasKey⟩
  | watched isChange =>
    rcases Payload.mem_putEntry isIn with rfl | wasThere
    · exact .inr (.inl isChange)
    · exact .inl ⟨entry, wasThere, rfl, hasKey⟩
  | entry isThere sameKey =>
    rcases Payload.mem_putEntry isIn with rfl | wasThere
    · exact .inl ⟨_, List.mem_of_find?_eq_some isThere, Payload.address_of_imported? isThere,
        sameKey ▸ hasKey⟩
    · exact .inl ⟨entry, wasThere, rfl, hasKey⟩
  | imported isAddress made isKey =>
    rcases Payload.mem_putEntry isIn with rfl | wasThere
    · cases isKey.symm.trans hasKey
      exact .inr (.inr ⟨_, isAddress, made⟩)
    · exact .inl ⟨entry, wasThere, rfl, hasKey⟩
  | notes => exact .inl ⟨entry, isIn, rfl, hasKey⟩
  | rooted => exact .inl ⟨entry, isIn, rfl, hasKey⟩
  | segwit => exact .inl ⟨entry, isIn, rfl, hasKey⟩

end Edit

theorem Payload.RootedIn.seedOf
    (rooted : payload.RootedIn services.cipher services.keys entropy held)
    (keeps : transition.KeepsTo entropy) {seed : Bytes}
    (drawn : transition.DrawsOn services payload held seed) :
    Phrase.seedOf entropy = .ok seed := by
  rcases drawn with ⟨body, isBody, revealed⟩ | ⟨other, label, second, rfl, stretched⟩
  · refine Body.seedOf_of_revealSeed ?_ revealed
    rw [Payload.reveal_access]
    exact (rooted.seed body isBody).1
  · cases keeps
    exact stretched

theorem Edit.rootedIn (edit : Edit services payload held transition next)
    (inverts : services.cipher.InvertsAt payload.iterations) (keeps : transition.KeepsTo entropy)
    (rooted : payload.RootedIn services.cipher services.keys entropy held) :
    next.RootedIn services.cipher services.keys entropy held := by
  constructor
  case hierarchical => exact edit.hierarchical rooted.hierarchical
  case seed =>
    intro later isLater
    rw [edit.reads_iff]
    rcases edit.seed isLater with ⟨body, isBody, same⟩ | ⟨other, _, _, rfl, closed, stretches⟩
    · exact same ▸ rooted.seed body isBody
    · cases keeps
      exact ⟨Payload.reads_of_protect inverts closed, stretches⟩
  case numbered =>
    have sameDerives : next.Derives services.cipher services.keys entropy held =
        payload.Derives services.cipher services.keys entropy held := by
      funext number derivation
      simp only [Payload.Derives, edit.reads_iff]
    rw [sameDerives]
    refine edit.numbered rooted.numbered fun seed number derivation drawn derived => ?_
    obtain ⟨_, pair, made, sameXpub, closed⟩ := Payload.derive_eq_ok.mp derived
    exact ⟨seed, pair, rooted.seedOf keeps drawn, made, sameXpub,
      Payload.reads_of_protect inverts closed⟩
  case imports =>
    intro entry isIn key hasKey
    simp only [edit.reads_iff]
    rcases edit.imports isIn hasKey with
      ⟨old, wasThere, same, hadKey⟩ | rfl | ⟨wif, isAddress, closed⟩
    · exact same ▸ rooted.imports old wasThere key hadKey
    · cases hasKey.symm.trans keeps
    · exact ⟨wif, Payload.reads_of_protect inverts closed, isAddress⟩
  case distinct => exact edit.distinct rooted.distinct
  case opens =>
    refine (Effect.edited edit).opens inverts ?_ rooted.opens
    rintro entry rfl
    exact keeps
  case digests => exact (Effect.edited edit).digests rooted.digests

theorem Payload.RootedIn.recast {flag : Bool} {hash : Option String}
    (rooted : payload.RootedIn cipher keys entropy held)
    (carried : ∀ secret ∈ payload.secrets, ∀ text, payload.Reads cipher held secret text →
      (payload.recast change flag hash).Reads cipher left (change secret) text)
    (digests : (payload.recast change flag hash).Digests left) :
    (payload.recast change flag hash).RootedIn cipher keys entropy left := by
  constructor
  case hierarchical =>
    rw [body?_recast, Option.isSome_map]
    exact rooted.hierarchical
  case seed =>
    intro later isLater
    rw [body?_recast, Option.map_eq_some_iff] at isLater
    obtain ⟨body, isBody, rfl⟩ := isLater
    exact (rooted.seed body isBody).imp_left (carried _ (seed_mem_secrets isBody) _)
  case numbered =>
    refine numbered_recast rooted.numbered fun number derivation isIn derives => ?_
    obtain ⟨seed, pair, stretched, made, sameXpub, reads⟩ := derives
    exact ⟨seed, pair, stretched, made, sameXpub, carried _ isIn _ reads⟩
  case imports =>
    intro later isIn key hasKey
    obtain ⟨entry, wasThere, rfl⟩ := List.mem_map.mp isIn
    obtain ⟨old, hadKey, rfl⟩ := Option.map_eq_some_iff.mp hasKey
    obtain ⟨wif, reads, isAddress⟩ := rooted.imports entry wasThere old hadKey
    exact ⟨wif, carried _ (key_mem_secrets wasThere hadKey) _ reads, isAddress⟩
  case distinct =>
    have sameAddresses : (payload.recast change flag hash).imported.map ImportedAddress.address =
        payload.imported.map ImportedAddress.address := by
      rw [Payload.recast, List.map_map]
      rfl
    rw [sameAddresses]
    exact rooted.distinct
  case opens => exact open_recast fun secret isIn =>
    (rooted.opens secret isIn).imp (carried secret isIn)
  case digests => exact digests

theorem Effect.rootedIn (effect : Effect services payload held transition next left change)
    (inverts : services.cipher.InvertsAt payload.iterations) (keeps : transition.KeepsTo entropy)
    (rooted : payload.RootedIn services.cipher services.keys entropy held) :
    next.RootedIn services.cipher services.keys entropy left := by
  have carried : ∀ secret ∈ payload.secrets, ∀ text,
      payload.Reads services.cipher held secret text →
      next.Reads services.cipher left (change secret) text :=
        fun secret isIn text => effect.reads inverts isIn
  have digests := effect.digests rooted.digests
  cases effect with
  | edited edit => exact edit.rootedIn inverts keeps rooted
  | locked => exact rooted.recast carried digests
  | unlocked => exact rooted.recast carried digests

namespace Payload

theorem rootedIn_flat (guid sharedKey : String) (iterations : UInt32) :
    (flat guid sharedKey iterations).RootedIn cipher keys entropy none where
  hierarchical := rfl
  seed := fun _ isBody => nomatch isBody
  numbered := fun _ _ isAccount => nomatch isAccount
  imports := fun _ isIn => nomatch isIn
  distinct := List.nodup_nil
  opens := fun _ isIn => nomatch isIn
  digests := fun isLocked => nomatch isLocked

theorem rootedIn_hierarchical (inverts : ∀ iterations, cipher.InvertsAt iterations)
    {guid sharedKey label : String} {iterations : UInt32}
    (made : hierarchical keys guid sharedKey label entropy iterations = .ok payload) :
    payload.RootedIn cipher keys entropy none := by
  have edit : Edit ⟨cipher, keys, [], Toy.services.now⟩ (flat guid sharedKey iterations) none
      (.upgradeToAccounts entropy label none) payload := edit_of_hierarchical made
  exact edit.rootedIn (inverts _) rfl (rootedIn_flat guid sharedKey iterations)

theorem Grown.isKnown (grown : Grown cipher keys entropy known payload held) :
    ∀ second, held = some second → known second := by
  induction grown with
  | flat => exact fun _ isHeld => nomatch isHeld
  | hierarchical => exact fun _ isHeld => nomatch isHeld
  | change _ _ _ _ isGiven _ ih => exact isGiven.known_leaves ih

/-- Every secret is what it is taken for, and is encrypted under the second password that was set
last. The second makes sure that the next change works with that one. -/
theorem Grown.rootedIn_and_under (inverts : ∀ iterations, cipher.InvertsAt iterations)
    (tellsApart : cipher.TellsApart known payload.sharedKey payload.iterations)
    (grown : Grown cipher keys entropy known payload held) :
    payload.RootedIn cipher keys entropy held ∧ payload.Under cipher held := by
  induction grown with
  | flat guid sharedKey iterations =>
    exact ⟨rootedIn_flat guid sharedKey iterations, under_of_plain rfl⟩
  | hierarchical made => exact ⟨rootedIn_hierarchical inverts made, under_hierarchical made⟩
  | @change payload next held transition seed now grown keeps isGiven applied ih =>
    obtain ⟨_, sharedKey, iterations⟩ := kept_of_apply applied
    rw [sharedKey, iterations] at tellsApart
    obtain ⟨rooted, under⟩ := ih tellsApart
    obtain ⟨_, effect⟩ :=
      effect_of_apply (under.fits tellsApart grown.isKnown isGiven applied) applied
    have watchOnly : ∀ entry, transition = .addImported entry → entry.key = none := by
      rintro entry rfl
      exact keeps
    exact ⟨effect.rootedIn (inverts _) keeps rooted, effect.keepsUnder watchOnly under⟩

/-! ## What a grown wallet reveals -/

theorem accountNumber?_eq_some {position : Nat} {number : UInt32} :
    accountNumber? position = some number ↔ position < 0x100000000 ∧
      number = UInt32.ofNat position := by
  unfold accountNumber?
  split
  · rename_i inRange
    simp [inRange, eq_comm]
  · rename_i outOfRange
    simp [outOfRange]

namespace RootedIn

variable (rooted : payload.RootedIn cipher keys entropy held)

include rooted

/-- The account at a position reveals the keys that entropy has there, under each scheme of the
version. -/
theorem revealXpriv {i : Nat} {account : Account} (isAccount : payload.accounts[i]? = some account)
    {scheme : Scheme} (isCarried : scheme ∈ Scheme.allFor payload.version) :
    ∃ seed pair, Phrase.seedOf entropy = .ok seed ∧
      keys.accountKeys seed scheme (UInt32.ofNat i) = .ok pair ∧
      account.xpub? scheme = some pair.xpub ∧
      payload.revealXpriv cipher (UInt64.ofNat i) scheme held = .ok pair.xpriv := by
  obtain ⟨number, isNumber, carries⟩ := rooted.numbered i account isAccount
  obtain ⟨inRange, rfl⟩ := accountNumber?_eq_some.mp isNumber
  obtain ⟨derivation, found, _, rfl, seed, pair, stretched, made, sameXpub, reads⟩ :=
    carries.derivation? isCarried
  have samePosition : (UInt64.ofNat i).toNat = i :=
    UInt64.toNat_ofNat_of_lt' (Nat.lt_trans inRange (by decide))
  refine ⟨seed, pair, stretched, made, ?_,
    revealXpriv_eq_ok.mpr ⟨rooted.opens.admits rooted.digests, account,
    derivation, samePosition.symm ▸ isAccount, found, reads⟩⟩
  rw [Account.xpub?, found, Option.map_some, sameXpub]

theorem revealPhrase (isHierarchical : payload.version.isHierarchical = true) :
    ∃ phrase, Phrase.reveal entropy = .ok phrase ∧
      payload.revealPhrase cipher held = .ok phrase := by
  rw [← rooted.hierarchical, Option.isSome_iff_exists] at isHierarchical
  obtain ⟨body, isBody⟩ := isHierarchical
  obtain ⟨reads, stretches⟩ := rooted.seed body isBody
  obtain ⟨phrase, spelled⟩ := Phrase.reveal_of_seedOf stretches
  exact ⟨phrase, spelled, revealPhrase_eq_ok.mpr ⟨rooted.opens.admits rooted.digests, body, _,
    entropy, isBody, reads, Hex.decode_encode entropy, spelled⟩⟩

theorem revealImported {entry : ImportedAddress} (isIn : entry ∈ payload.imported) {key : Secret}
    (hasKey : entry.key = some key) :
      ∃ wif, payload.revealImported cipher entry.address held = .ok wif ∧
      keys.addressForKey wif .legacy = .ok entry.address := by
  obtain ⟨wif, reads, isAddress⟩ := rooted.imports entry isIn key hasKey
  have isOwn : payload.imported? entry.address = some entry :=
    find?_of_mem_distinct rooted.distinct isIn
  exact ⟨wif, revealImported_eq_ok.mpr ⟨rooted.opens.admits rooted.digests, entry, key, isOwn,
    hasKey, reads⟩, isAddress⟩

end RootedIn

end Payload

/-- The keys of a wallet that grew from entropy are what the wallet says, as long as the cipher
tells the second passwords apart that its changes are given. Each account carries the schemes of the
version, the newest as its default, and under each of them the keys that the entropy has at its
position. The backup phrase is that of the entropy, and each key that is held for an imported
address controls that address. -/
theorem Payload.Grown.keys_are_as_claimed (inverts : ∀ iterations, cipher.InvertsAt iterations)
    (tellsApart : cipher.TellsApart known payload.sharedKey payload.iterations)
    (grown : Grown cipher keys entropy known payload held) :
    (∀ (i : Nat) (account : Account), payload.accounts[i]? = some account →
      i < 0x100000000 ∧ account.derivations.map Derivation.scheme = Scheme.allFor payload.version ∧
        account.defaultScheme = Scheme.defaultFor payload.version ∧
        ∀ scheme ∈ Scheme.allFor payload.version, ∃ seed pair, Phrase.seedOf entropy = .ok seed ∧
          keys.accountKeys seed scheme (UInt32.ofNat i) = .ok pair ∧
          account.xpub? scheme = some pair.xpub ∧
          payload.revealXpriv cipher (UInt64.ofNat i) scheme held = .ok pair.xpriv) ∧
      (payload.version.isHierarchical = true →
        ∃ phrase, Phrase.reveal entropy = .ok phrase ∧
          payload.revealPhrase cipher held = .ok phrase) ∧
      ∀ entry ∈ payload.imported, ∀ key, entry.key = some key →
        ∃ wif, payload.revealImported cipher entry.address held = .ok wif ∧
          keys.addressForKey wif .legacy = .ok entry.address := by
  obtain ⟨rooted, _⟩ := grown.rootedIn_and_under inverts tellsApart
  refine ⟨fun i account isAccount => ?_, rooted.revealPhrase, fun entry isIn key =>
    rooted.revealImported isIn⟩
  obtain ⟨number, isNumber, carries⟩ := rooted.numbered i account isAccount
  obtain ⟨inRange, _⟩ := accountNumber?_eq_some.mp isNumber
  exact ⟨inRange, carries.schemes, carries.defaultScheme, fun scheme =>
    rooted.revealXpriv isAccount⟩

/-! ## A wallet with a second password -/

/-- Whoever may read the secrets of a locked wallet can import a key of a new address. -/
theorem Payload.importKey_succeeds {second wif address : String} (device : Device)
    (encrypts : services.cipher.Encrypts) (positive : 0 < payload.iterations)
    (isLocked : payload.doubleEncrypted = true)
    (admitted : payload.Admits services.cipher (some second))
    (isAddress : services.keys.addressForKey wif .legacy = .ok address)
    (isNew : payload.imported? address = none) :
    ∃ key, (Transition.importKey wif none device (some second)).apply services payload =
      .ok (payload.withEntry (.withKey address key device services.now)) := by
  have accessed : payload.fieldCipher services.cipher services.seed (some second) =
      .ok (some (payload.fieldsOf services.cipher services.seed second)) :=
    fieldCipher_eq_ok.mpr ⟨admitted, (access_of_locked isLocked).symm⟩
  obtain ⟨key, made⟩ :=
    (payload.fieldsOf services.cipher services.seed second).encrypt_succeeds encrypts positive wif
  refine ⟨key, ?_⟩
  simp only [Transition.apply, importKey, isAddress, liftError_ok, bind_ok, accessed,
    Secret.protect, made, entryOfKey, isNew, pure_eq_ok, map_ok]

namespace Toy

/-- A new wallet imports a key and is then given a second password. -/
structure Locks (payload wallet locked : Payload) : Prop where
  made : Payload.hierarchical keySource "guid" "key" "main" (List.replicate 16 0) 7 = .ok payload
  imported : (Transition.importKey "wif-cold" none ⟨"android", "1"⟩ none).apply Toy.services
    payload = .ok wallet
  set : (Transition.setSecond "second").apply Toy.services wallet = .ok locked
  sharedKey : locked.sharedKey = "key"
  iterations : locked.iterations = 7
  isLocked : locked.doubleEncrypted = true
  isThird : locked.version = .v3
  hasAccount : ∃ account, locked.accounts[0]? = some account
  isNew : locked.imported? "addr-legacy-warm" = none

theorem exists_locks : ∃ payload wallet locked : Payload, Locks payload wallet locked := by
  have ⟨seed, stretched⟩ : ∃ seed, Phrase.seedOf (List.replicate 16 0) = .ok seed := ⟨_, rfl⟩
  refine ⟨?_, ?_, ?_, ?made, ?imported, ?set, ?_, ?_, ?_, ?_, ?hasAccount, ?_⟩
  case made =>
    simp only [Payload.hierarchical, Body.ofEntropy, stretched]
    exact rfl
  case imported => exact rfl
  case set => exact rfl
  case hasAccount => exact ⟨_, rfl⟩
  all_goals rfl

/-- The second passwords that are given to that wallet, or might be. -/
def Tried (second : String) : Prop := second = "second" ∨ second = "other"

theorem tried_tellsApart : Toy.cipher.TellsApart Tried "key" 7 := by
  apply cipher_tellsApart
  · rintro _ _ (rfl | rfl) (rfl | rfl) <;> decide +kernel
  · rintro _ _ (rfl | rfl) (rfl | rfl) <;> decide +kernel

def warm (key : Secret) : ImportedAddress :=
  .withKey "addr-legacy-warm" key ⟨"android", "1"⟩ Toy.services.now

namespace Locks

variable {payload wallet locked : Payload} (locks : Locks payload wallet locked)

include locks

theorem tellsApart : Toy.cipher.TellsApart Tried locked.sharedKey locked.iterations := by
  rw [locks.sharedKey, locks.iterations]
  exact tried_tellsApart

theorem grows : ∃ key, Payload.Grown Toy.cipher keySource (List.replicate 16 0) Tried
    (locked.withEntry (warm key)) (some "second") := by
  have isThere : Payload.Grown Toy.cipher keySource (List.replicate 16 0) Tried payload none :=
    .hierarchical locks.made
  have hasKey : Payload.Grown Toy.cipher keySource (List.replicate 16 0) Tried wallet none := by
    refine .change [] Toy.services.now isThere ?_ (Transition.isGiven_importKey fun _ isAsked => ?_)
      locks.imported
    · trivial
    · cases isAsked
  have isLocked : Payload.Grown Toy.cipher keySource (List.replicate 16 0) Tried locked
      (some "second") := by
    refine .change [] Toy.services.now hasKey ?_ (Transition.isGiven_setSecond (.inl rfl)) locks.set
    trivial
  obtain ⟨rooted, _⟩ := isLocked.rootedIn_and_under cipher_invertsAt locks.tellsApart
  have encrypts : Toy.services.cipher.Encrypts := cipher_encrypts
  have positive : 0 < locked.iterations := locks.iterations ▸ (by decide : 0 < (7 : UInt32))
  have isAddress : Toy.services.keys.addressForKey "wif-warm" .legacy = .ok "addr-legacy-warm" :=
    rfl
  obtain ⟨key, applied⟩ := Payload.importKey_succeeds ⟨"android", "1"⟩ encrypts positive
    locks.isLocked (rooted.opens.admits rooted.digests) isAddress locks.isNew
  refine ⟨key, .change [] Toy.services.now isLocked ?_ (Transition.isGiven_importKey ?_) applied⟩
  · trivial
  · rintro _ ⟨⟩
    exact .inl rfl

end Locks

end Toy

/-- A new wallet that was locked, and was given a key to import afterwards, reveals the keys and the
phrase of its entropy, and the imported key. -/
theorem Payload.keys_are_as_claimed_new : ∃ (payload : Payload) (seed : Bytes) (pair : AccountKeys)
    (phrase wif : String), Phrase.seedOf (List.replicate 16 0) = .ok seed ∧
      Toy.keySource.accountKeys seed .legacy 0 = .ok pair ∧
      payload.revealXpriv Toy.cipher 0 .legacy (some "second") = .ok pair.xpriv ∧
      Phrase.reveal (List.replicate 16 0) = .ok phrase ∧
      payload.revealPhrase Toy.cipher (some "second") = .ok phrase ∧
      payload.revealImported Toy.cipher "addr-legacy-warm" (some "second") = .ok wif ∧
      Toy.keySource.addressForKey wif .legacy = .ok "addr-legacy-warm" := by
  obtain ⟨_, _, locked, locks⟩ := Toy.exists_locks
  obtain ⟨key, grown⟩ := locks.grows
  have tellsApart : Toy.cipher.TellsApart Toy.Tried (locked.withEntry (Toy.warm key)).sharedKey
    (locked.withEntry (Toy.warm key)).iterations := locks.tellsApart
  obtain ⟨accounts, phrases, imports⟩ := grown.keys_are_as_claimed Toy.cipher_invertsAt tellsApart
  obtain ⟨account, isAccount⟩ := locks.hasAccount
  obtain ⟨_, _, _, each⟩ := accounts 0 account isAccount
  obtain ⟨seed, pair, stretched, derived, _, xpriv⟩ :=
    each .legacy (locks.isThird ▸ List.mem_cons_self)
  obtain ⟨phrase, spelled, revealed⟩ := phrases (locks.isThird ▸ rfl)
  have isIn : Toy.warm key ∈ putEntry (Toy.warm key) locked.imported := by
    have isNew : locked.imported? (Toy.warm key).address = none := locks.isNew
    rw [putEntry_of_new isNew]
    exact List.mem_append_right _ (List.mem_singleton_self _)
  obtain ⟨wif, revealedKey, isAddress⟩ := imports _ isIn key rfl
  exact ⟨_, seed, pair, phrase, wif, stretched, derived, xpriv, spelled, revealed,
    revealedKey, isAddress⟩

/-! ## A second password that passes for another -/

/-- Two second passwords that have the same fingerprint behind the key of the flat wallet. -/
def Toy.Alike (second : String) : Prop := second = "010953" ∨ second = "094483"

/-- The flat wallet with one imported key, when that key was locked under one of them and unlocked
under the other. -/
def Payload.withGarbled : Payload :=
  { flat "guid" "key" 1 with
    imported :=
      [.withKey "addr-legacy-cold" (.plain "wif-kkai") ⟨"android", "1"⟩ Toy.services.now] }

theorem Payload.unsetSecond_garbles :
    ∃ locked, (Transition.setSecond "010953").apply Toy.services withCold = .ok locked ∧
    (Transition.unsetSecond "094483").apply Toy.services locked = .ok withGarbled := by
  have both : ((Transition.setSecond "010953").apply Toy.services withCold >>=
      (Transition.unsetSecond "094483").apply Toy.services).toOption = some withGarbled := by
        decide +kernel
  exact bind_eq_ok.mp (toOption_eq_some.mp both)

/-- Where the cipher does not tell second passwords apart, a key that is held for an address need
not be a key of it: a wallet may be unlocked under another second password than it was locked
under. -/
theorem Payload.Grown.keys_can_be_garbled : (∀ iterations, Toy.cipher.InvertsAt iterations) ∧
    Payload.Grown Toy.cipher Toy.keySource (List.replicate 16 0) Toy.Alike withGarbled none ∧
    ∃ entry ∈ withGarbled.imported, ∃ wif,
      withGarbled.revealImported Toy.cipher entry.address none = .ok wif ∧
      Toy.keySource.addressForKey wif .legacy ≠ .ok entry.address := by
  obtain ⟨locked, isSet, isUnset⟩ := unsetSecond_garbles
  have isImported : (Transition.importKey "wif-cold" none ⟨"android", "1"⟩ none).apply Toy.services
      (Payload.flat "guid" "key" 1) = .ok withCold := rfl
  have isThere : Payload.Grown Toy.cipher Toy.keySource (List.replicate 16 0) Toy.Alike
      withCold none := by
    refine .change [] Toy.services.now (.flat "guid" "key" 1) ?_
      (Transition.isGiven_importKey fun _ isAsked => ?_)
      isImported
    · trivial
    · cases isAsked
  have isLocked : Payload.Grown Toy.cipher Toy.keySource (List.replicate 16 0) Toy.Alike locked
      (some "010953") := by
    refine .change [] Toy.services.now isThere ?_ (Transition.isGiven_setSecond (.inl rfl)) isSet
    trivial
  refine ⟨Toy.cipher_invertsAt, ?_, _, List.mem_cons_self, "wif-kkai", rfl, fun same => ?_⟩
  · refine .change [] Toy.services.now isLocked ?_
      (Transition.isGiven_unsetSecond (.inr rfl)) isUnset
    trivial
  · exact absurd (Except.ok.inj same) (by decide)

end Coffer
