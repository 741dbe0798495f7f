import Coffer.Error
/-!
# Codes of failures

A code that stays the same whatever the wording: the kind of a failure and its name, with a point
between.
-/

namespace Coffer

def ValidationError.name : ValidationError → String
  | uninitialized => "Uninitialized"
  | corruptedPayload _ => "CorruptedPayload"
  | missingDevice => "MissingDevice"
  | unsupportedVersion _ => "UnsupportedVersion"
  | versionDowngrade _ _ => "VersionDowngrade"
  | wrongVersion _ _ => "WrongVersion"
  | accountNotFound _ => "AccountNotFound"
  | indexAlreadyReserved _ _ => "IndexAlreadyReserved"
  | duplicateAddress _ => "DuplicateAddress"
  | addressNotFound _ => "AddressNotFound"
  | archiveDefaultAccount => "ArchiveDefaultAccount"
  | accountArchived _ => "AccountArchived"
  | secondPasswordAlreadySet => "SecondPasswordAlreadySet"
  | secondPasswordRequired => "SecondPasswordRequired"
  | invalidInput _ => "InvalidInput"

def CredentialError.name : CredentialError → String
  | invalidCredentials => "InvalidCredentials"
  | accountLocked _ => "AccountLocked"
  | invalidPassword => "InvalidPassword"
  | invalidSecondPassword => "InvalidSecondPassword"

def ConflictError.name : ConflictError → String
  | checksumMismatch _ => "ChecksumMismatch"
  | staleCandidate _ => "StaleCandidate"

def TransportError.name : TransportError → String
  | server _ => "Server"
  | timeout => "Timeout"
  | cancelled => "Cancelled"
  | batchFailed _ => "BatchFailed"

def DerivationError.name : DerivationError → String
  | invalidSeed _ => "InvalidSeed"
  | invalidExtendedKey _ => "InvalidExtendedKey"
  | invalidPrivateKey _ => "InvalidPrivateKey"
  | invalidMnemonic _ => "InvalidMnemonic"
  | derivation _ => "Derivation"
  | upgrade _ => "Upgrade"

def CipherError.name : CipherError → String
  | encryption _ => "Encryption"
  | decryption => "Decryption"
  | malformed _ => "Malformed"

namespace WalletError

def category : WalletError → String
  | validation _ => "Validation"
  | credential _ => "Credential"
  | conflict _ => "Conflict"
  | transport _ => "Transport"
  | derivation _ => "Derivation"
  | cipher _ => "Cipher"
  | endless => "Search"

def name : WalletError → String
  | validation cause => cause.name
  | credential cause => cause.name
  | conflict cause => cause.name
  | transport cause => cause.name
  | derivation cause => cause.name
  | cipher cause => cause.name
  | endless => "Endless"

def code (cause : WalletError) : String := cause.category ++ "." ++ cause.name

def ofEveryName (detail : String) (first second : Nat) : List WalletError :=
  let old := UInt8.ofNat first
  let new := UInt8.ofNat second
  let index := UInt64.ofNat first
  ([.uninitialized, .corruptedPayload detail, .missingDevice, .unsupportedVersion old,
      .versionDowngrade old new, .wrongVersion old new, .accountNotFound index,
      .indexAlreadyReserved (UInt32.ofNat first) detail, .duplicateAddress detail,
      .addressNotFound detail, .archiveDefaultAccount, .accountArchived index,
      .secondPasswordAlreadySet, .secondPasswordRequired,
      .invalidInput detail] : List ValidationError).map validation ++
    ([.invalidCredentials, .accountLocked detail, .invalidPassword,
      .invalidSecondPassword] : List CredentialError).map credential ++
    ([.checksumMismatch detail, .staleCandidate detail] : List ConflictError).map conflict ++
    ([.server detail, .timeout, .cancelled, .batchFailed detail] : List TransportError).map
      transport ++
    ([.invalidSeed detail, .invalidExtendedKey detail, .invalidPrivateKey detail,
      .invalidMnemonic detail, .derivation detail, .upgrade detail] : List DerivationError).map
        derivation ++
    ([.encryption detail, .decryption, .malformed detail] : List CipherError).map cipher

def ofName? (name detail : String) (first second : Nat) : Option WalletError :=
  (ofEveryName detail first second).find? fun cause => cause.name = name

end WalletError

end Coffer
