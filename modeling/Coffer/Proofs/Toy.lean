import Coffer.Proofs.Wallet.Reached
/-!
# Transparent collaborators get through

With keys that spell their paths, whatever needs keys or addresses of small numbers succeeds on a
wallet without a second password. So there are runs of every length to which the laws of wallets
apply.
-/

namespace Coffer

namespace Toy

theorem accountKeys_succeeds (seed : Bytes) (scheme : Scheme) {number : UInt32}
    (small : number < 0x80000000) :
    ∃ pair, keySource.accountKeys seed scheme number = .ok pair := by
  simp [keySource, checkIndex, small]

theorem pub_of_makes {number : UInt32} {derivation : Derivation}
    (made : keySource.Makes number derivation) : ∃ path, derivation.xpub = "pub-" ++ path := by
  obtain ⟨_, _, made, isXpub⟩ := made
  obtain ⟨_, _, made⟩ := bind_eq_ok.mp made
  cases made
  exact ⟨_, isXpub⟩

theorem pub_of_default {version : Version} {number : UInt32} {account : Account} {xpub : String}
    (carries : account.Carries version keySource.Makes number)
    (hasXpub : account.defaultXpub? = some xpub) : ∃ path, xpub = "pub-" ++ path := by
  obtain ⟨derivation, found, rfl⟩ := Option.map_eq_some_iff.mp hasXpub
  exact pub_of_makes (carries.each derivation (List.mem_of_find?_eq_some found))

theorem ofNat_lt {number : Nat} (small : number < 0x80000000) :
    UInt32.ofNat number < 0x80000000 := by
  rw [UInt32.lt_iff_toNat_lt, UInt32.toNat_ofNat_of_lt' (Nat.lt_trans small (by decide))]
  exact small

theorem addressesFrom_pub (path : String) (scheme : Scheme) {start count : Nat}
    (inRange : start + count ≤ 0x80000000) :
    ∃ addresses, keySource.addressesFrom ("pub-" ++ path) scheme start count = .ok addresses := by
  induction count generalizing start with
  | zero => exact ⟨[], rfl⟩
  | succ count ih =>
    have small : start < 0x80000000 := by omega
    have further : start + 1 + count ≤ 0x80000000 := by omega
    obtain ⟨first, derived⟩ := addressAt_pub path scheme .receive (ofNat_lt small)
    obtain ⟨later, derivedLater⟩ := ih further
    exact ⟨first :: later, by rw [KeySource.addressesFrom, derived, derivedLater]⟩

theorem first_addresses_differ (path : String) (scheme : Scheme) (chain : Chain) : ∃ first second,
    keySource.addressAt ("pub-" ++ path) scheme chain 0 = .ok first ∧
      keySource.addressAt ("pub-" ++ path) scheme chain 1 = .ok second ∧ first ≠ second := by
  have told (index : UInt32) (small : index < 0x80000000) : keySource.addressAt ("pub-" ++ path)
      scheme chain index =
      .ok (toString scheme.name ++ ":" ++ ("pub-" ++ path) ++ "/" ++ toString chain.number ++ "/" ++
        toString index) := by
    simp [keySource, after?, checkIndex, small]
    rfl
  refine ⟨_, _, told 0 (by decide), told 1 (by decide), fun same => ?_⟩
  rw [String.append_right_inj] at same
  exact absurd same (by decide)

theorem addSegwit_succeeds (seed : Bytes) {position : Nat} (account : Account)
    (small : position < 0x80000000) :
    ∃ next, Payload.addSegwit services none seed position account = .ok next := by
  have isNumber : Payload.accountNumber? position = some (UInt32.ofNat position) :=
    if_pos (Nat.lt_trans small (by decide))
  obtain ⟨pair, derived⟩ := accountKeys_succeeds seed .segwit (ofNat_lt small)
  have derived : services.keys.accountKeys seed .segwit (UInt32.ofNat position) = .ok pair :=
    derived
  unfold Payload.addSegwit
  split
  · exact ⟨_, rfl⟩
  · simp only [isNumber, derived]
    exact ⟨_, rfl⟩

theorem addSegwitFrom_succeeds (seed : Bytes) {position : Nat} {accounts : List Account}
    (inRange : position + accounts.length ≤ 0x80000000) :
    ∃ next, Payload.addSegwitFrom services none seed position accounts = .ok next ∧
      next.length = accounts.length := by
  induction accounts generalizing position with
  | nil => exact ⟨[], rfl, rfl⟩
  | cons account others ih =>
    rw [List.length_cons] at inRange
    have small : position < 0x80000000 := by omega
    have further : position + 1 + others.length ≤ 0x80000000 := by omega
    obtain ⟨next, upgraded⟩ := addSegwit_succeeds seed account small
    obtain ⟨rest, upgradedRest, length⟩ := ih further
    exact ⟨next :: rest, by rw [Payload.addSegwitFrom, upgraded, upgradedRest]; rfl, congrArg (· +
      1) length⟩

theorem upgradeToSegwit_succeeds {payload : Payload} {body : Body} {seed : Bytes}
    (isOld : payload.version = .v3) (isPlain : payload.doubleEncrypted = false)
    (onlyBody : payload.bodies = [body]) (revealed : body.revealSeed none = .ok seed)
    (inRange : body.accounts.length ≤ 0x80000000) :
    ∃ next, payload.upgradeToSegwit services none = .ok next ∧ next.version = .v4 ∧
      next.accounts.length = body.accounts.length := by
  have inRange : 0 + body.accounts.length ≤ 0x80000000 := by omega
  obtain ⟨accounts, upgraded, length⟩ := addSegwitFrom_succeeds seed inRange
  have upgradedBody : Payload.upgradeBody services none body = .ok { body with accounts } := by
    rw [Payload.upgradeBody, revealed, bind_ok, upgraded]
    rfl
  simp only [Payload.upgradeToSegwit, Payload.needsSegwit, isOld,
    Payload.fieldCipher_of_plain isPlain, onlyBody, bind_ok, List.mapM_cons, upgradedBody]
  exact ⟨_, rfl, rfl, length⟩

theorem deriveAll_succeeds (seed : Bytes) {number : UInt32} (small : number < 0x80000000)
    (schemes : List Scheme) (account : Account) :
    ∃ next, Payload.deriveAll services none seed number schemes account = .ok next := by
  induction schemes generalizing account with
  | nil => exact ⟨account, rfl⟩
  | cons scheme others ih =>
    obtain ⟨keys, derived⟩ := accountKeys_succeeds seed scheme small
    have made : Payload.derive services none seed number scheme =
        .ok ⟨scheme, .plain keys.xpriv, keys.xpub⟩ :=
      Payload.derive_eq_ok.mpr ⟨rfl, keys, derived, rfl, rfl⟩
    rw [Payload.deriveAll, made]
    exact ih _

/-- The payload of a new wallet in which an index of the only account has a label. -/
structure Labelled (payload : Payload) (index : UInt32) (body : Body) (account : Account)
    (seed : Bytes) : Prop where
  isThird : payload.version = .v3
  isPlain : payload.doubleEncrypted = false
  onlyBody : payload.bodies = [body]
  revealed : body.revealSeed none = .ok seed
  accounts : body.accounts = [account]
  inUse : account.archived = false
  labels : account.addressLabels = SortedMap.empty.insert index "rent"
  noImported : payload.imported = []

theorem new_payload_is_labelled (iterations index : UInt32) : ∃ payload labelled body account seed,
    Payload.hierarchical keySource "guid" "key" "main" (List.replicate 16 0)
      iterations = .ok payload ∧
      (Transition.labelAddress 0 index "rent").apply services payload = .ok labelled ∧
      Labelled labelled index body account seed := by
  have ⟨seed, stretched⟩ : ∃ seed, Phrase.seedOf (List.replicate 16 0) = .ok seed := ⟨_, rfl⟩
  simp only [Payload.hierarchical, Body.ofEntropy, stretched]
  exact ⟨_, _, _, _, seed, rfl, rfl, rfl, rfl, rfl, Body.revealSeed_of_plain rfl stretched, rfl,
    rfl, rfl, rfl⟩

end Toy

end Coffer
