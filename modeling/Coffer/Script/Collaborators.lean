import Coffer.Cipher.Sealed
import Coffer.KeySource.Hierarchical
import Coffer.Script.Values
import Coffer.Services
import Coffer.Toy
/-!
# Collaborators in scripts

The cipher and the source of keys that a script names, with what it makes them refuse, and the
payload that it starts from.
-/

namespace Coffer.Script

/-- Whether a script asks for the cipher of stored wallets; otherwise it gets the transparent
one. -/
def isSealed (json : Json) : Bool := json.textAt "cipher" = "aes"

def cipher (json : Json) : Cipher := if isSealed json then Sealed.cipher else Toy.cipher

def network (json : Json) : Network :=
  match json.textAt "network" with
  | "testnet" => .testnet
  | "signet" => .signet
  | "regtest" => .regtest
  | _ => .bitcoin

/-- The source of keys of a script, with the refusal of a step or else its own. -/
def keys (json step : Json) : KeySource :=
  let source :=
    if json.textAt "derivation" = "bip32" then
      Hierarchical.keySource (network json) else Toy.keySource
  match (step.valueAt? "refuse").or (json.valueAt? "refuse") with
  | some refusal => source.refusing (scheme refusal) (refusal.wordAt "account")
  | none => source

def clock : Instant := ⟨2024, 1, 1, 0, 0, 0, 0, rfl, rfl⟩

def seedAt (step : Nat) : Bytes := Bytes.ofNat 8 step

def services (json step : Json) (count : Nat) : Services :=
  ⟨cipher json, keys json step, seedAt count, clock⟩

/-- The payload that a document starts from: a new one with accounts, a new flat one, or one that is
given. What is given has to be readable. -/
def start? (source : KeySource) (json : Json) : Option (Except WalletError Payload) :=
  let guid := (json.textAt? "guid").getD "guid-0"
  let sharedKey := (json.textAt? "shared_key").getD "shared-0"
  match json.valueAt? "new_hd", json.valueAt? "new_legacy" with
  | some fresh, _ =>
    some (Payload.hierarchical source guid sharedKey (fresh.textAt "label")
      (bytesAt fresh "entropy") (fresh.wordAt "iterations"))
  | none, some fresh => some (.ok (Payload.flat guid sharedKey (fresh.wordAt "iterations")))
  | none, none => (Json.documentAt? Payload.ofJson? json "payload").map .ok

end Coffer.Script
