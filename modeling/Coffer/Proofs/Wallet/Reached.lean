import Coffer.Proofs.Payload.Growth
import Coffer.Proofs.Payload.Preservation
import Coffer.Proofs.Wallet.Search
import Coffer.Proofs.Wallet.Steps
/-!
# Wallets that are reached

A wallet is reached from a new, recovered or loaded one by commands that go on with it. Its accounts
have keys that were made for their positions, and its reservations are the labels of its accounts.
-/

namespace Coffer

namespace KeySource

/-- The public key of a derivation is one that the source makes for a number. -/
def Makes (keys : KeySource) (number : UInt32) (derivation : Derivation) : Prop :=
  ∃ seed pair, keys.accountKeys seed derivation.scheme number = .ok pair ∧
    derivation.xpub = pair.xpub

/-- Under a scheme, the source makes different public keys for different numbers, from whatever
seeds it serves. -/
def TellsApart (keys : KeySource) : Prop :=
  ∀ ⦃seed other : Bytes⦄ ⦃scheme : Scheme⦄ ⦃number otherNumber : UInt32⦄
    ⦃pair otherPair : AccountKeys⦄, keys.accountKeys seed scheme number = .ok pair →
      keys.accountKeys other scheme otherNumber = .ok otherPair →
      pair.xpub = otherPair.xpub → number = otherNumber

end KeySource

namespace Toy

theorem eq_of_toDigits_append {number other : Nat} {rest others : List Char}
    (same : Nat.toDigits 10 number ++ '-' :: rest = Nat.toDigits 10 other ++ '-' :: others) :
    number = other := by
  have digits (value : Nat) (later : List Char) :
      (Nat.toDigits 10 value ++ '-' :: later).takeWhile Char.isDigit = Nat.toDigits 10 value := by
    rw [List.takeWhile_append_of_pos fun _ => Nat.isDigit_of_mem_toDigits (by decide) (by decide)]
    simp
  have sameDigits := congrArg (List.takeWhile Char.isDigit) same
  rw [digits, digits] at sameDigits
  rw [← Nat.ofDigitChars_ten_toDigits (n := number), sameDigits, Nat.ofDigitChars_ten_toDigits]

theorem keySource_tellsApart : keySource.TellsApart := by
  intro seed other scheme number otherNumber pair otherPair made otherMade same
  obtain ⟨_, _, made⟩ := bind_eq_ok.mp made
  obtain ⟨_, _, otherMade⟩ := bind_eq_ok.mp otherMade
  cases made
  cases otherMade
  have sameText := congrArg String.toList same
  simp only [String.toList_append, List.append_assoc, List.append_cancel_left_eq] at sameText
  have digits (value : UInt32) : (toString value).toList = Nat.toDigits 10 value.toNat :=
    String.toList_ofList
  rw [digits, digits] at sameText
  exact UInt32.toNat_inj.mp (eq_of_toDigits_append sameText)

theorem addressAt_pub (path : String) (scheme : Scheme) (chain : Chain) {index : UInt32}
    (small : index < 0x80000000) :
    ∃ address, keySource.addressAt ("pub-" ++ path) scheme chain index = .ok address := by
  simp [keySource, after?, checkIndex, small]

theorem addressAt_of_large (path : String) (scheme : Scheme) (chain : Chain) {index : UInt32}
    (large : ¬ index < 0x80000000) :
    ∃ reason, keySource.addressAt ("pub-" ++ path) scheme chain index = .error reason := by
  simp [keySource, after?, checkIndex, large]

end Toy

namespace Payload

variable {keys : KeySource} {services : Services} {payload next : Payload}
  {held left : Option String} {transition : Transition} {change : Secret → Secret}

theorem makes_of_derive {fields : Option FieldCipher} {seed : Bytes} {number : UInt32}
    {derivation : Derivation}
    (derived : derive services fields seed number derivation.scheme = .ok derivation) :
    services.keys.Makes number derivation := by
  obtain ⟨_, pair, made, sameXpub, _⟩ := derive_eq_ok.mp derived
  exact ⟨seed, pair, made, sameXpub⟩

theorem numbered_of_effect (effect : Effect services payload held transition next left change)
    (numbered : payload.Numbered services.keys.Makes) : next.Numbered services.keys.Makes := by
  cases effect with
  | edited edit => exact edit.numbered numbered fun _ _ _ _ => makes_of_derive
  | locked => exact numbered_recast numbered fun _ _ _ => id
  | unlocked => exact numbered_recast numbered fun _ _ _ => id

theorem numbered_of_apply (applied : transition.apply services payload = .ok next)
    (numbered : payload.Numbered services.keys.Makes) : next.Numbered services.keys.Makes := by
  obtain ⟨_, _, _, effect⟩ := exists_effect applied
  exact numbered_of_effect effect numbered

theorem numbered_of_addAccount {label : String} (numbered : payload.Numbered services.keys.Makes)
    (added : payload.addAccount services label none = .ok next) :
    next.Numbered services.keys.Makes := by
  have applied : (Transition.addAccount label none).apply services payload = .ok next := added
  exact numbered_of_apply applied numbered

theorem numbered_hierarchical {guid sharedKey label : String} {entropy : Bytes}
    {iterations : UInt32}
    (made : hierarchical services.keys guid sharedKey label entropy iterations = .ok payload) :
    payload.Numbered services.keys.Makes :=
  (edit_of_hierarchical made).numbered (fun _ _ isAccount => nomatch isAccount) fun _ _ _ _ =>
    makes_of_derive

theorem ChangesTo.numbered (changed : payload.ChangesTo keys next)
    (numbered : payload.Numbered keys.Makes) : next.Numbered keys.Makes := by
  rcases changed with rfl | ⟨services, transition, rfl, applied⟩
  · exact numbered
  · exact numbered_of_apply applied numbered

theorem position_of_chain (tellsApart : keys.TellsApart)
    (numbered : payload.Numbered keys.Makes) {i j : Nat}
    {account other : Account} (isAccount : payload.accounts[i]? = some account)
    (isOther : payload.accounts[j]? = some other)
    {derivation second : Derivation} (isOwn : derivation ∈ account.derivations)
    (isSecond : second ∈ other.derivations) (sameXpub : second.xpub = derivation.xpub)
    (sameScheme : second.scheme = derivation.scheme) : j = i := by
  obtain ⟨number, isNumber, carries⟩ := numbered i account isAccount
  obtain ⟨otherNumber, isOtherNumber, otherCarries⟩ := numbered j other isOther
  obtain ⟨small, rfl⟩ := accountNumber?_eq_some.mp isNumber
  obtain ⟨otherSmall, rfl⟩ := accountNumber?_eq_some.mp isOtherNumber
  obtain ⟨_, pair, made, isXpub⟩ := carries.each derivation isOwn
  obtain ⟨_, otherPair, otherMade, isOtherXpub⟩ := otherCarries.each second isSecond
  have sameNumber := tellsApart (sameScheme ▸ otherMade) made (isXpub ▸ isOtherXpub ▸ sameXpub)
  have samePosition := congrArg UInt32.toNat sameNumber
  rw [UInt32.toNat_ofNat_of_lt' small, UInt32.toNat_ofNat_of_lt' otherSmall] at samePosition
  exact samePosition

theorem apart_of_numbered (tellsApart : keys.TellsApart) (numbered : payload.Numbered keys.Makes) :
    payload.accounts.Pairwise Account.Apart := by
  rw [List.pairwise_iff_getElem]
  intro i j inRange otherInRange before xpub scheme
  cases claimed : payload.accounts[i].claim? xpub scheme with
  | none => exact .inl rfl
  | some labels =>
    cases claimedAgain : payload.accounts[j].claim? xpub scheme with
    | none => exact .inr rfl
    | some otherLabels =>
      obtain ⟨derivation, isIn, rfl, rfl⟩ := Account.derivation_of_claim claimed
      obtain ⟨second, isSecond, sameXpub, sameScheme⟩ := Account.derivation_of_claim claimedAgain
      have same := position_of_chain tellsApart numbered (List.getElem?_eq_getElem inRange)
        (List.getElem?_eq_getElem otherInRange) isIn isSecond sameXpub sameScheme
      omega

theorem Extends.hasChain (extended : payload.Extends change next) {xpub : String} {scheme : Scheme}
    (hasChain : payload.HasChain xpub scheme) : next.HasChain xpub scheme := by
  obtain ⟨account, isIn, derivation, isOwn, rfl, rfl⟩ := hasChain
  obtain ⟨i, isAccount⟩ := List.getElem?_of_mem isIn
  obtain ⟨later, isLater, extended⟩ := extended.accounts i account isAccount
  obtain ⟨more, derivations⟩ := extended.derivations
  refine ⟨later, List.mem_of_getElem? isLater, derivation.recast change, ?_, rfl, rfl⟩
  rw [derivations]
  exact List.mem_append_left _ (List.mem_map_of_mem isOwn)

theorem ChangesTo.hasChain (changed : payload.ChangesTo keys next)
    (valid : payload.validate = .ok ()) (xpub : String)
    (scheme : Scheme) (hasChain : payload.HasChain xpub scheme) : next.HasChain xpub scheme := by
  rcases changed with rfl | ⟨services, transition, _, applied⟩
  · exact hasChain
  · obtain ⟨_, _, _, effect⟩ := exists_effect applied
    exact (effect.extends (sound_of_valid valid)).hasChain hasChain

end Payload

namespace Wallet

variable {keys : KeySource}

/-- The wallets that come after one by commands that go on with it, with one source of keys. -/
inductive Leads (keys : KeySource) (wallet : Wallet) : Wallet → Prop
  | refl : Leads keys wallet wallet
  | perform {later : Wallet} {workplace : Workplace} (store : Store) (draw : Draw)
      {command : Command} (leads : Leads keys wallet later) (sameKeys : workplace.services.keys =
        keys) (goesOn : command.GoesOn) :
      Leads keys wallet (later.perform workplace store draw command).wallet

/-- The wallets that come after a new, a recovered or a loaded one, with one source of keys. What is
loaded is a payload that such a wallet has stored. -/
inductive Reached (keys : KeySource) : Wallet → Prop
  | created {workplace : Workplace} (store : Store) (draw : Draw) (label email password : String)
      (sameKeys : workplace.services.keys = keys) :
      Reached keys (initial.create workplace store draw label email password).wallet
  | recovered {workplace : Workplace} (store : Store) (draw : Draw)
      (phrase label email password : String) (sameKeys : workplace.services.keys = keys) :
      Reached keys (initial.recover workplace store draw phrase label email password).wallet
  | loaded {source : Wallet} {workplace : Workplace} {store : Store}
      {guid sharedKey password : String} {payload : Payload} (reached : Reached keys source)
      (stored : source.payload = .ok payload)
      (isLoaded : (initial.load workplace store guid sharedKey password).wallet.payload =
      .ok payload) : Reached keys (initial.load workplace store guid sharedKey password).wallet
  | performed {wallet : Wallet} {workplace : Workplace} (store : Store) (draw : Draw)
      {command : Command} (reached : Reached keys wallet) (sameKeys : workplace.services.keys =
        keys) (goesOn : command.GoesOn) :
      Reached keys (wallet.perform workplace store draw command).wallet

/-- What a reached wallet has committed is valid, its accounts have keys of their positions, its
reservations are the labels of its accounts, and it knows nothing of other chains than theirs. -/
structure Kept (keys : KeySource) (allocator : Allocator) (payload : Payload) : Prop where
  valid : payload.validate = .ok ()
  numbered : payload.Numbered keys.Makes
  reserves : allocator.Reserves payload
  knowsOnly : allocator.KnowsOnly payload

def Keeps (keys : KeySource) (wallet : Wallet) : Prop :=
  ∀ committed, wallet.synchronizer.committed = some committed →
    Kept keys wallet.synchronizer.allocator committed.payload

theorem kept_syncLabels (tellsApart : keys.TellsApart) {payload : Payload} {allocator : Allocator}
    (valid : payload.validate = .ok ()) (numbered : payload.Numbered keys.Makes)
    (knowsOnly : allocator.KnowsOnly payload) :
    Kept keys (allocator.syncLabels payload) payload where
  valid := valid
  numbered := numbered
  reserves := allocator.reserves_syncLabels (Payload.apart_of_numbered tellsApart numbered)
  knowsOnly := Allocator.knowsOnly_syncLabels knowsOnly

theorem Step.keeps {wallet later : Wallet} (step : Step keys wallet later)
    (tellsApart : keys.TellsApart) (keeps : wallet.Keeps keys) : later.Keeps keys := by
  intro committed isCommitted
  cases step with
  | rested same forward spares =>
    have wasCommitted := same ▸ isCommitted
    have kept := keeps committed wasCommitted
    exact ⟨kept.valid, kept.numbered, forward.reserves kept.reserves,
      (spares committed wasCommitted).knowsOnly kept.knowsOnly⟩
  | refreshed wasCommitted same forward spares synced =>
    cases same.symm.trans isCommitted
    have kept := keeps _ wasCommitted
    rw [synced]
    exact kept_syncLabels tellsApart kept.valid kept.numbered (spares.knowsOnly kept.knowsOnly)
  | saved wasCommitted isNew changed valid synced =>
    cases isNew.symm.trans isCommitted
    have kept := keeps _ wasCommitted
    rw [synced]
    exact kept_syncLabels tellsApart valid (changed.numbered kept.numbered)
      (kept.knowsOnly.mono (changed.hasChain kept.valid))

/-- What a new wallet has committed after it was stored for the first time is what was stored, and
its labels have been taken over. -/
theorem stored_of_saveNew {surroundings : Surroundings} {store : Store} {payload : Payload}
    {password email : String} {committed : Committed}
    (isCommitted : (initial.settle
      (initial.synchronizer.saveNew surroundings store payload password
        email)).wallet.synchronizer.committed = some committed) :
    committed.payload = payload ∧ payload.validate = .ok () ∧
      (initial.settle
        (initial.synchronizer.saveNew surroundings store payload password
          email)).wallet.synchronizer.allocator = Allocator.empty.syncLabels payload := by
  have outcome :=
    Call.outcome (.saveNew payload password email) initial.synchronizer surroundings store
  rw [Call.perform] at outcome
  rw [settle] at isCommitted ⊢
  generalize initial.synchronizer.saveNew surroundings store payload password email =
    attempt at outcome isCommitted ⊢
  cases outcome with
  | failed => cases isCommitted
  | loaded _ source =>
    rcases source with isCall | ⟨_, _, _, isCall, _⟩
    · cases isCall
    · cases isCall
  | inserted isCall _ saved =>
    cases isCall
    rw [saved.attempt_eq] at isCommitted ⊢
    cases isCommitted
    exact ⟨rfl, saved.valid, rfl⟩
  | updated isCall => cases isCall

/-- A wallet that was stored for the first time, with keys of the positions of its accounts. -/
theorem keeps_saveNew (tellsApart : keys.TellsApart) {surroundings : Surroundings} {store : Store}
    {payload : Payload} {password email : String} (numbered : payload.Numbered keys.Makes) :
    (initial.settle (initial.synchronizer.saveNew surroundings store payload password
      email)).wallet.Keeps keys := by
  intro committed isCommitted
  obtain ⟨rfl, valid, synced⟩ := stored_of_saveNew isCommitted
  rw [synced]
  exact kept_syncLabels tellsApart valid numbered (Allocator.knowsOnly_empty _)

theorem synchronizer_settleLoad (wallet : Wallet) (attempt : Attempt Committed) :
    (wallet.settleLoad attempt).wallet.synchronizer = attempt.synchronizer := by
  unfold settleLoad
  split <;> rfl

theorem synchronizer_load {workplace : Workplace} {store : Store} {guid sharedKey password : String}
    {committed : Committed}
    (isCommitted : (initial.load workplace store guid sharedKey
      password).wallet.synchronizer.committed = some committed) :
    (initial.load workplace store guid sharedKey password).wallet.synchronizer =
      initial.synchronizer.commit committed password := by
  have outcome :=
    Call.outcome (.load guid sharedKey password) initial.synchronizer workplace.surroundings store
  rw [load, synchronizer_settleLoad] at isCommitted ⊢
  change Outcome _ _ _ _ (initial.synchronizer.load store workplace.services.cipher guid sharedKey
    password) at outcome
  generalize initial.synchronizer.load store workplace.services.cipher guid sharedKey
    password = attempt at *
  cases outcome with
  | failed => cases isCommitted
  | loaded _ source =>
    cases isCommitted
    rcases source with isCall | ⟨_, _, _, isCall, _⟩
    · cases isCall
    · cases isCall
      rfl
  | inserted isCall => cases isCall
  | updated isCall => cases isCall

theorem Reached.keeps {wallet : Wallet} (reached : Reached keys wallet)
    (tellsApart : keys.TellsApart) : wallet.Keeps keys := by
  have keepsInitial : initial.Keeps keys := fun _ isCommitted => nomatch isCommitted
  induction reached with
  | created store draw label email password sameKeys =>
    simp only [create]
    split
    · exact keepsInitial
    · rename_i payload made
      exact keeps_saveNew tellsApart (sameKeys ▸ Payload.numbered_hierarchical made)
  | @recovered workplace store draw phrase label email password sameKeys =>
    unfold recover
    dsimp only
    split
    · exact keepsInitial
    · rename_i payload restored
      obtain ⟨entropy, _, made⟩ := bind_eq_ok.mp restored
      have numbered := Payload.numbered_hierarchical made
      split
      · exact keepsInitial
      · rename_i search ran
        have searched : search.Both (Payload.Numbered workplace.services.keys.Makes) :=
          Search.Both.run Payload.numbered_of_addAccount ⟨numbered, numbered⟩ ran
        exact keeps_saveNew tellsApart (sameKeys ▸ searched.kept)
  | loaded reached stored isLoaded ih =>
    intro committed isCommitted
    obtain ⟨old, wasCommitted, rfl⟩ := payload_eq_ok stored
    obtain ⟨other, isOther, same⟩ := payload_eq_ok isLoaded
    cases isCommitted.symm.trans isOther
    have kept := ih old wasCommitted
    rw [← same] at kept
    rw [synchronizer_load isCommitted]
    exact kept_syncLabels tellsApart kept.valid kept.numbered (Allocator.knowsOnly_empty _)
  | performed store draw reached sameKeys goesOn ih =>
    exact (step_perform _ store draw sameKeys goesOn).keeps tellsApart ih

end Wallet

end Coffer
