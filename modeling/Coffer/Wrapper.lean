import Coffer.Checksum
import Coffer.Payload.Document
/-!
# Wrappers

The form in which a payload is stored: encrypted under the main password, in hexadecimal, next to
its version and the number of times that the password is stretched. A wrapper of the first version
does not say that number, and readers take ten for it.
-/

namespace Coffer

/-- How often the password is stretched where a wrapper does not say so. -/
def firstIterations : UInt32 := 10

structure Wrapper where
  version : UInt8
  iterations : Option UInt32
  payload : String
  deriving DecidableEq, Repr

namespace Wrapper

def toJson (wrapper : Wrapper) : Json := .object
  ([Json.member "version" (.ofNat wrapper.version.toNat)] ++
    (wrapper.iterations.map fun count =>
      Json.member "pbkdf2_iterations" (.ofNat count.toNat)).toList ++
    [Json.member "payload" (.ofText wrapper.payload)])

def ofJson? (json : Json) : Option Wrapper := do
  match ← json.fields? ["version", "pbkdf2_iterations", "payload"] with
  | [version, iterations, payload] =>
    let number ← Json.required (Json.nat? 256) version
    return ⟨UInt8.ofNat number, ← Json.optional Json.word32? iterations,
      ← Json.required Json.text? payload⟩
  | _ => none

/-- The text of a wrapper, which needs no character outside ASCII. -/
def toText (wrapper : Wrapper) : String := wrapper.toJson.render.asciiText

def ofText? (text : String) : Option Wrapper := (Json.read? (Bytes.ofText text)).bind ofJson?

end Wrapper

/-- A payload as it is stored: its text and the checksum of that. -/
structure Wrapped where
  text : String
  checksum : Checksum
  deriving DecidableEq, Repr

def Payload.declaredIterations (payload : Payload) : Option UInt32 :=
  match payload.version with
  | .v1 => none
  | _ => some payload.iterations

def wrap (cipher : Cipher) (seed : Bytes) (payload : Payload) (password : String) :
    Except WalletError Wrapped :=
  let declared := payload.declaredIterations
  match cipher.encrypt seed payload.render password (declared.getD firstIterations) with
  | .error cause => .error (.cipher cause)
  | .ok bytes =>
    let text := Wrapper.toText ⟨payload.version.number, declared, Hex.encode bytes⟩
    .ok ⟨text, .ofText text⟩

/-- Decrypts what a wrapper holds; a wrong key is a wrong password. -/
def Wrapper.decrypt (wrapper : Wrapper) (cipher : Cipher) (password : String) :
    Except WalletError Bytes :=
  match Hex.decode wrapper.payload with
  | .error fault => .error (.corrupted s!"payload hex: {fault.message}")
  | .ok bytes =>
    match cipher.decrypt bytes password (wrapper.iterations.getD firstIterations) with
    | .ok plain => .ok plain
    | .error .decryption => .error (.credential .invalidPassword)
    | .error cause => .error (.cipher cause)

/-- The payload of a stored text, valid and of the version that the wrapper declares, and the
checksum of the text as it was received. -/
def unwrap (cipher : Cipher) (text password : String) :
    Except WalletError (Payload × Checksum) := do
  match Wrapper.ofText? text with
  | none => throw (.corrupted "wrapper: malformed document")
  | some wrapper =>
    match Version.ofNumber? wrapper.version with
    | none => throw (.validation (.unsupportedVersion wrapper.version))
    | some version =>
      let plain ← wrapper.decrypt cipher password
      match Payload.read? plain with
      | none => throw (.corrupted "payload: malformed document")
      | some payload =>
        if payload.version ≠ version then
          throw (.corrupted s!"wrapper declares {version.name}, payload is {payload.version.name}")
        liftError .validation payload.validate
        return (payload, .ofText text)

end Coffer
