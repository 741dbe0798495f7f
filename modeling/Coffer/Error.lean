import Coffer.Scheme
import Coffer.Text.Quoted
/-!
# Failures

One type for each reason to fail: a precondition, an identity or password, another writer, the way
to the server, the derivation of keys, the cipher. Only a conflict and a transport failure may pass
when the whole cycle of reading, changing and writing is repeated.
-/

namespace Coffer

/-- A precondition that does not hold; nothing was sent. -/
inductive ValidationError where
  | uninitialized
  | corruptedPayload (detail : String)
  | missingDevice
  | unsupportedVersion (number : UInt8)
  | versionDowngrade (old new : UInt8)
  | wrongVersion (actual needed : UInt8)
  | accountNotFound (index : UInt64)
  | indexAlreadyReserved (index : UInt32) (existing : String)
  | duplicateAddress (address : String)
  | addressNotFound (address : String)
  | archiveDefaultAccount
  | accountArchived (index : UInt64)
  | secondPasswordAlreadySet
  | secondPasswordRequired
  | invalidInput (detail : String)
  deriving DecidableEq, Repr

inductive CredentialError where
  | invalidCredentials
  | accountLocked (detail : String)
  | invalidPassword
  | invalidSecondPassword
  deriving DecidableEq, Repr

inductive ConflictError where
  | checksumMismatch (expected : String)
  | staleCandidate (base : String)
  deriving DecidableEq, Repr

/-- The server or the way to it failed. -/
inductive TransportError where
  | server (detail : String)
  | timeout
  | cancelled
  | batchFailed (detail : String)
  deriving DecidableEq, Repr

inductive DerivationError where
  | invalidSeed (detail : String)
  | invalidExtendedKey (detail : String)
  | invalidPrivateKey (detail : String)
  | invalidMnemonic (detail : String)
  | derivation (detail : String)
  | upgrade (detail : String)
  deriving DecidableEq, Repr

inductive CipherError where
  | encryption (detail : String)
  | decryption
  | malformed (detail : String)
  deriving DecidableEq, Repr

inductive WalletError where
  | validation (cause : ValidationError)
  | credential (cause : CredentialError)
  | conflict (cause : ConflictError)
  | transport (cause : TransportError)
  | derivation (cause : DerivationError)
  | cipher (cause : CipherError)
  /-- Not a failure that is told: a search for a free index that never ends, so that the request
  does not come back. -/
  | endless
  deriving DecidableEq, Repr

instance : Coe ValidationError WalletError := ⟨.validation⟩
instance : Coe CredentialError WalletError := ⟨.credential⟩
instance : Coe ConflictError WalletError := ⟨.conflict⟩
instance : Coe TransportError WalletError := ⟨.transport⟩
instance : Coe DerivationError WalletError := ⟨.derivation⟩
instance : Coe CipherError WalletError := ⟨.cipher⟩

def ValidationError.message : ValidationError → String
  | uninitialized => "wallet payload not initialized"
  | corruptedPayload detail => s!"payload corrupted: {detail}"
  | missingDevice => "device context not specified"
  | unsupportedVersion number => s!"unsupported wrapper version: {number}"
  | versionDowngrade old new => s!"wrapper version downgrade from {old} to {new}"
  | wrongVersion actual needed => s!"payload is at version {actual}, operation requires {needed}"
  | accountNotFound index => s!"account not found: {index}"
  | indexAlreadyReserved index existing =>
    s!"address index {index} already reserved as " ++ Text.quoted existing
  | duplicateAddress address => s!"imported address already present: {address}"
  | addressNotFound address => s!"imported address not found: {address}"
  | archiveDefaultAccount => "default account cannot be archived"
  | accountArchived index => s!"account {index} is archived"
  | secondPasswordAlreadySet => "second password already set"
  | secondPasswordRequired => "second password required"
  | invalidInput detail => s!"invalid input: {detail}"

def CredentialError.message : CredentialError → String
  | invalidCredentials => "invalid wallet identifier or shared key"
  | accountLocked detail => s!"account locked: {detail}"
  | invalidPassword => "invalid password"
  | invalidSecondPassword => "invalid second password"

def ConflictError.message : ConflictError → String
  | checksumMismatch expected => s!"remote checksum does not match {expected}"
  | staleCandidate base => s!"local payload changed since candidate was built from {base}"

def TransportError.message : TransportError → String
  | server detail => s!"server error: {detail}"
  | timeout => "request timed out"
  | cancelled => "request cancelled"
  | batchFailed detail => s!"batch request failed: {detail}"

def DerivationError.message : DerivationError → String
  | invalidSeed detail => s!"invalid seed: {detail}"
  | invalidExtendedKey detail => s!"invalid extended key: {detail}"
  | invalidPrivateKey detail => s!"invalid private key: {detail}"
  | invalidMnemonic detail => s!"invalid mnemonic: {detail}"
  | derivation detail => s!"derivation failed: {detail}"
  | upgrade detail => s!"upgrade failed: {detail}"

def CipherError.message : CipherError → String
  | encryption detail => s!"encryption: {detail}"
  | decryption => "decryption failed"
  | malformed detail => s!"malformed ciphertext: {detail}"

namespace WalletError

def message : WalletError → String
  | validation cause => cause.message
  | credential cause => cause.message
  | conflict cause => cause.message
  | transport cause => cause.message
  | derivation cause => cause.message
  | cipher cause => cause.message
  | endless => "the search for a free index does not end"

/-- Whether repeating the whole cycle of reading, changing and writing may help. -/
def isRetryable : WalletError → Bool
  | conflict _ => true
  | transport _ => true
  | _ => false

def corrupted (detail : String) : WalletError := .validation (.corruptedPayload detail)

end WalletError

def liftError {ε α : Type} (wrap : ε → WalletError) : Except ε α → Except WalletError α
  | .ok value => .ok value
  | .error cause => .error (wrap cause)

def orFail {ε α : Type} (cause : ε) : Option α → Except ε α
  | some value => .ok value
  | none => .error cause

end Coffer
