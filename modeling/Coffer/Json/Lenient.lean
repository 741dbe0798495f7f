import Coffer.Json.Record
/-!
# Documents read with defaults

Reading of documents that need not be complete: what is absent or of another kind counts as the
empty value of the kind that was asked for, and of repeated members the last one counts.
-/

namespace Coffer.Json

def member? (json : Json) (name : String) : Option Json :=
  match json with
  | .object members =>
    (members.reverse.find? fun entry => spelledText? entry.1 == some name).map Prod.snd
  | _ => none

def has (json : Json) (name : String) : Bool := (json.member? name).isSome

def textAt? (json : Json) (name : String) : Option String := (json.member? name).bind text?

def textAt (json : Json) (name : String) : String := (json.textAt? name).getD ""

def natAt (json : Json) (name : String) : Nat :=
  ((json.member? name).bind (nat? 0x10000000000000000)).getD 0

def wordAt (json : Json) (name : String) : UInt32 := UInt32.ofNat (json.natAt name)

def longAt (json : Json) (name : String) : UInt64 := UInt64.ofNat (json.natAt name)

def intAt (json : Json) (name : String) : Int :=
  match json.member? name with
  | some (.number (0x2d :: digits)) =>
    -(((spelledNat? 0x8000000000000001 digits).getD 0 : Nat) : Int)
  | some value => ((value.nat? 0x8000000000000000).getD 0 : Nat)
  | none => 0

def flagAt (json : Json) (name : String) : Bool := ((json.member? name).bind bool?).getD false

def listAt (json : Json) (name : String) : List Json :=
  match json.member? name with
  | some (.array items) => items
  | _ => []

def tableAt (json : Json) (name : String) : List (String × Json) :=
  match json.member? name with
  | some (.object members) =>
    members.filterMap fun entry => (spelledText? entry.1).map fun key => (key, entry.2)
  | _ => []

def valueAt? (json : Json) (name : String) : Option Json :=
  match json.member? name with
  | some .null => none
  | value => value

mutual

/-- A document with a change applied to its texts. Every string ends up in its shortest spelling. -/
def mapTexts (change : String → String) : Json → Json
  | .text spelling => (spelledText? spelling).elim (.text spelling) fun text => ofText (change text)
  | .array items => .array (mapItems change items)
  | .object members => .object (mapMembers change members)
  | other => other

def mapItems (change : String → String) : List Json → List Json
  | [] => []
  | item :: others => item.mapTexts change :: mapItems change others

/-- Members with a change applied to the texts of their values. -/
def mapMembers (change : String → String) : List (Bytes × Json) → List (Bytes × Json)
  | [] => []
  | (key, value) :: others =>
    ((spelledText? key).elim key escape, value.mapTexts change) :: mapMembers change others

end

/-- The text of a document that is given as a string with its text or as itself. -/
def documentText (json : Json) : String :=
  match json with
  | .text spelling => (spelledText? spelling).getD ""
  | other => ((other.mapTexts id).render.toText?).getD ""

/-- Reads a member that is a document, given as a string with its text or as itself. -/
def documentAt? {α : Type} (read : Json → Option α) (json : Json) (name : String) : Option α :=
  (read? (Bytes.ofText ((json.member? name).getD .null).documentText)).bind read

def ofMembers (members : List (String × Json)) : Json :=
  .object (members.map fun entry => member entry.1 entry.2)

def orNull {α : Type} (write : α → Json) (value : Option α) : Json := value.elim .null write

def ofList {α : Type} (write : α → Json) (values : List α) : Json := .array (values.map write)

end Coffer.Json
