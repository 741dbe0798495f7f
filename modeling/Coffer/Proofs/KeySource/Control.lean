import Coffer.Proofs.KeySource.Derivation
import Coffer.Proofs.KeySource.Numbers
/-!
# Signing keys control addresses

The address of an index is made of the extended public key of an account, and the signing key of the
index of the extended private key. They belong together: what the signing key controls is the
address, and where one of them cannot be made the other cannot either, for the same reason.
-/

namespace Coffer.Hierarchical

open ExtendedKey (Private Public hardened)

variable {network : Network} {seed : Bytes} {scheme : Scheme} {chain : Chain}
  {account index : UInt32}

/-- The extended keys of an account are the texts of a private key and of its public key. -/
theorem accountKeys_eq_ok {keys : AccountKeys}
    (made : accountKeys network seed scheme account = .ok keys) :
    account < 0x80000000 ∧ ∃ key : Private, key.IsKey ∧
      keys = ⟨key.encode, key.toPublic.encode⟩ := by
  rw [accountKeys] at made
  split at made
  case isTrue => cases made
  case isFalse =>
    obtain ⟨root, -, made⟩ := bind_eq_ok.mp made
    obtain ⟨number, checked, made⟩ := bind_eq_ok.mp made
    obtain ⟨purpose, -, made⟩ := bind_eq_ok.mp made
    obtain ⟨coin, -, made⟩ := bind_eq_ok.mp made
    obtain ⟨key, found, made⟩ := bind_eq_ok.mp made
    have isKey := Private.isKey_of_child? (orFail_eq_ok.mp found)
    exact ⟨(checkNumber_eq_ok.mp checked).1, key, isKey, (Except.ok.inj made).symm⟩

theorem addressForKey_encode {key : Private} (isKey : key.IsKey) :
    addressForKey network (SigningKey.encode ⟨network.isMain, true, key.scalar⟩) scheme =
      address network key.toPublic.point.compressed scheme := by
  rw [addressForKey, SigningKey.decode?_encode _ isKey.isScalar, orFail_some, bind_ok]
  rfl

/-- The address of an index is the one that its signing key controls, and where there is no signing
key the address fails for the same reason. -/
theorem addressAt_eq {key : Private} (isKey : key.IsKey) :
    addressAt network key.toPublic.encode scheme chain index =
      (signingKey network key.encode chain index >>= fun wif =>
        addressForKey network wif scheme) := by
  rw [addressAt, signingKey, Private.decode?_encode isKey, Private.decode?_encode_toPublic isKey,
    orFail_some, orFail_some, bind_ok, bind_ok, bind_assoc]
  cases checked : checkNumber index with
  | error cause => rw [bind_error, bind_error]
  | ok number =>
    obtain ⟨normal, same⟩ := checkNumber_eq_ok.mp checked
    subst same
    rw [bind_ok, bind_ok, bind_assoc, Private.child?_toPublic isKey (chain_number_lt chain)]
    cases branchFound : key.child? chain.number with
    | none => rfl
    | some branch =>
      have isBranch := Private.isKey_of_child? branchFound
      rw [Option.map_some, orFail_some, orFail_some, bind_ok, bind_ok, bind_assoc,
        Private.child?_toPublic isBranch normal]
      cases lastFound : branch.child? index with
      | none => rfl
      | some last =>
        rw [Option.map_some, orFail_some, orFail_some, bind_ok, bind_ok, pure_bind]
        exact (addressForKey_encode (Private.isKey_of_child? lastFound)).symm

theorem signingKey_encode_eq_ok {key : Private} (isKey : key.IsKey) {wif : String}
    (made : signingKey network key.encode chain index = .ok wif) :
    ∃ last : Private, last.IsKey ∧ wif = SigningKey.encode ⟨network.isMain, true, last.scalar⟩ := by
  rw [signingKey, Private.decode?_encode isKey, orFail_some, bind_ok] at made
  obtain ⟨number, -, made⟩ := bind_eq_ok.mp made
  obtain ⟨branch, -, made⟩ := bind_eq_ok.mp made
  obtain ⟨last, found, made⟩ := bind_eq_ok.mp made
  exact ⟨last, Private.isKey_of_child? (orFail_eq_ok.mp found), (Except.ok.inj made).symm⟩

theorem exists_address (network : Network) (point : Secp256k1.Point) (scheme : Scheme) :
    ∃ text, address network point.compressed scheme = .ok text := by
  cases scheme with
  | legacy => exact ⟨_, rfl⟩
  | segwit => exact ⟨_, if_pos (Secp256k1.length_compressed point)⟩

theorem exists_address_iff {key : Private} (isKey : key.IsKey) :
    (∃ address, addressAt network key.toPublic.encode scheme chain index = .ok address) ↔
      ∃ wif, signingKey network key.encode chain index = .ok wif := by
  rw [addressAt_eq isKey]
  constructor
  · rintro ⟨address, made⟩
    obtain ⟨wif, wifMade, -⟩ := bind_eq_ok.mp made
    exact ⟨wif, wifMade⟩
  · rintro ⟨wif, wifMade⟩
    obtain ⟨last, isLast, rfl⟩ := signingKey_encode_eq_ok isKey wifMade
    obtain ⟨text, isAddress⟩ := exists_address network last.toPublic.point scheme
    exact ⟨text, by rw [wifMade, bind_ok, addressForKey_encode isLast, isAddress]⟩

/-- The signing key of an index controls the address of the index, and an index has one exactly if
it has the other. Accounts and indexes from 2^31 on are refused. -/
theorem signing_key_controls_address (network : Network) (seed : Bytes) (scheme : Scheme)
    (account : UInt32) (chain : Chain) (index : UInt32) :
    (∀ keys, accountKeys network seed scheme account = .ok keys →
      (∀ address wif, addressAt network keys.xpub scheme chain index = .ok address →
        signingKey network keys.xpriv chain index = .ok wif →
          addressForKey network wif scheme = .ok address) ∧
      ((∃ address, addressAt network keys.xpub scheme chain index = .ok address) ↔
        ∃ wif, signingKey network keys.xpriv chain index = .ok wif)) ∧
    (2 ^ 31 ≤ account.toNat → ∃ cause, accountKeys network seed scheme account = .error cause) ∧
    (2 ^ 31 ≤ index.toNat →
      (∀ xpub, ∃ cause, addressAt network xpub scheme chain index = .error cause) ∧
      ∀ xpriv, ∃ cause, signingKey network xpriv chain index = .error cause) := by
  refine ⟨?_, ?_, ?_⟩
  · intro keys keysMade
    obtain ⟨-, key, isKey, rfl⟩ := accountKeys_eq_ok keysMade
    refine ⟨fun address wif addressMade wifMade => ?_, exists_address_iff isKey⟩
    rw [addressAt_eq isKey, wifMade, bind_ok] at addressMade
    exact addressMade
  · intro large
    refine exists_error fun keys made => ?_
    exact absurd (UInt32.lt_iff_toNat_lt.mp (accountKeys_eq_ok made).1) (Nat.not_lt.mpr large)
  · intro large
    have refused : ¬ index < 0x80000000 := fun normal =>
      absurd (UInt32.lt_iff_toNat_lt.mp normal) (Nat.not_lt.mpr large)
    exact ⟨fun xpub => exists_error fun address made => refused (addressAt_eq_ok made),
      fun xpriv => exists_error fun wif made => refused (signingKey_eq_ok made)⟩

theorem signing_key_controls_address_of_sevens :
    accountKeys .bitcoin (List.replicate 64 7) .segwit 2 = .ok
      ⟨"xprv9yjCJrhropwTAfi5fPbhYhb8wHWBoHYARj3XhhNuNrWR9DaNaGY61p7SPKFFLfXNLVZMZKfqYZe28hAi5o3wkTLKBkZ9k4rMLqC4mB4jegZ",
        "xpub6CiYiNEkeCVkP9nYmR8huqXsVKLgCkG1nwy8W5nWwC3Q21uX7orLZcRvEbiCm6fm6r1NqmTghHYLzgEgTAu2EFYx5AALkcdNGdUimetGEdK"⟩ ∧
    addressForKey .bitcoin "KwsdCnZhnaMMRtrRHaqDP21Fn1RFD9v1iDQZ4XeQj9AcEGUqQsqx" .segwit =
      .ok "bc1qleanzsjvzwjmf4mje8hgnlugcx94ypkdyql2g0" ∧
    (∃ cause, accountKeys .bitcoin (List.replicate 64 7) .segwit 0x80000000 = .error cause) ∧
    (∀ xpub, ∃ cause, addressAt .bitcoin xpub .segwit .receive 0xffffffff = .error cause) ∧
    ∀ xpriv, ∃ cause, signingKey .bitcoin xpriv .receive 0xffffffff = .error cause := by
  have keys : accountKeys .bitcoin (List.replicate 64 7) .segwit 2 = .ok
      ⟨"xprv9yjCJrhropwTAfi5fPbhYhb8wHWBoHYARj3XhhNuNrWR9DaNaGY61p7SPKFFLfXNLVZMZKfqYZe28hAi5o3wkTLKBkZ9k4rMLqC4mB4jegZ",
        "xpub6CiYiNEkeCVkP9nYmR8huqXsVKLgCkG1nwy8W5nWwC3Q21uX7orLZcRvEbiCm6fm6r1NqmTghHYLzgEgTAu2EFYx5AALkcdNGdUimetGEdK"⟩ :=
    toOption_eq_some.mp (by decide +kernel)
  refine ⟨keys, ?_, ?_, ?_⟩
  · refine ((signing_key_controls_address .bitcoin (List.replicate 64 7) .segwit 2 .receive 5).1 _
      keys).1 _ _ ?_ ?_
    · exact toOption_eq_some.mp (by decide +kernel)
    · exact toOption_eq_some.mp (by decide +kernel)
  · exact (signing_key_controls_address .bitcoin (List.replicate 64 7) .segwit 0x80000000 .receive
      5).2.1 (by decide)
  · exact (signing_key_controls_address .bitcoin [] .segwit 2 .receive 0xffffffff).2.2 (by decide)

end Coffer.Hierarchical
