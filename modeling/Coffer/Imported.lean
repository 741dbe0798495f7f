import Coffer.Instant
import Coffer.Secret
/-!
# Imported addresses

Addresses from outside the tree of keys of a wallet. One without a key is only watched until a key
is attached to it; then the device and the time of that are recorded.
-/

namespace Coffer

structure Device where
  /-- The operating system, sent along with everything that is stored. -/
  system : String
  appVersion : String
  deriving DecidableEq, Repr

structure ImportedAddress where
  address : String
  key : Option Secret
  label : String
  archived : Bool
  createdAt : Option Instant
  device : String
  appVersion : String
  deriving DecidableEq

namespace ImportedAddress

def watchOnly (address label : String) : ImportedAddress :=
  ⟨address, none, label, false, none, "", ""⟩

/-- An address with its key, stamped with time and device. -/
def withKey (address : String) (key : Secret) (device : Device) (now : Instant) : ImportedAddress :=
  ⟨address, some key, "", false, some now, device.system, device.appVersion⟩

def isWatchOnly (entry : ImportedAddress) : Bool := entry.key.isNone

def displayLabel (entry : ImportedAddress) : String :=
  if entry.label.isEmpty then entry.address else entry.label

/-- The entry with a key, stamped with the device and, where no time is recorded yet, with the
time. -/
def attachKey (entry : ImportedAddress) (key : Secret) (device : Device) (now : Instant) :
    ImportedAddress :=
  { entry with
    key := some key
    createdAt := some (entry.createdAt.getD now)
    device := device.system
    appVersion := device.appVersion }

def mapSecret (change : Secret → Except WalletError Secret) (entry : ImportedAddress) :
    Except WalletError ImportedAddress :=
  match entry.key with
  | none => .ok entry
  | some key =>
    match change key with
    | .ok key => .ok { entry with key := some key }
    | .error cause => .error cause

end ImportedAddress

end Coffer
