/-!
# Versions, schemes and chains

The three tags that the rest of the library is indexed by: how new the format of a payload is, which
family of addresses a key makes, and which branch of an account an address is on.
-/

namespace Coffer

/-- The version of a stored payload. Versions only ever grow. -/
inductive Version where
  /-- A flat list of keys; the wrapper says nothing about stretching. -/
  | v1
  /-- A flat list of keys; the wrapper says how often the password is stretched. -/
  | v2
  | v3
  | v4
  deriving DecidableEq, Repr

namespace Version

def number : Version → UInt8
  | v1 => 1
  | v2 => 2
  | v3 => 3
  | v4 => 4

def ofNumber? (number : UInt8) : Option Version :=
  if number = 1 then some v1 else if number = 2 then some v2
  else if number = 3 then some v3 else if number = 4 then some v4 else none

@[simp] theorem ofNumber?_number (version : Version) : ofNumber? version.number = some version := by
  cases version <;> rfl

def latest : Version := v4

/-- Whether payloads of the version hold a wallet body with accounts. -/
def isHierarchical (version : Version) : Bool := 3 ≤ version.number

def name (version : Version) : String := s!"v{version.number}"

end Version

/-- A family of addresses, with a path and an index space of its own. -/
inductive Scheme where
  | legacy
  | segwit
  deriving DecidableEq, Repr

namespace Scheme

def name : Scheme → String
  | legacy => "legacy"
  | segwit => "bech32"

def purpose : Scheme → UInt32
  | legacy => 44
  | segwit => 84

/-- The scheme of new receive addresses in payloads of a version. -/
def defaultFor (version : Version) : Scheme := if 4 ≤ version.number then segwit else legacy

/-- The schemes that a new account carries in payloads of a version, oldest first. -/
def allFor (version : Version) : List Scheme :=
  if 4 ≤ version.number then [legacy, segwit] else [legacy]

end Scheme

inductive Chain where
  | receive
  | change
  deriving DecidableEq, Repr

def Chain.number : Chain → UInt32
  | receive => 0
  | change => 1

end Coffer
