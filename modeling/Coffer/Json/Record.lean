import Coffer.Json.Text
import Coffer.Json.Number
/-!
# Records of documents

A record is written as an object, and read from an object in any order or from an array of its
fields in the order of their declaration. An object may hold members that the record does not have,
which are left alone; a field may be given once only.
-/

namespace Coffer.Json

/-- The keys of an object as texts; every one of them must be usable. -/
def keyed? : List (Bytes × Json) → Option (List (String × Json))
  | [] => some []
  | (key, value) :: others => do
    let name ← spelledText? key
    let later ← keyed? others
    some ((name, value) :: later)

/-- What an object holds for a field: nothing, or its one value. -/
def field? (name : String) (members : List (String × Json)) : Option (Option Json) :=
  match members.filter (·.1 == name) with
  | [] => some none
  | [(_, value)] => some (some value)
  | _ => none

def fields? (names : List String) : Json → Option (List (Option Json))
  | .object members => do
    let members ← keyed? members
    names.mapM fun name => field? name members
  | .array items =>
    if items.length ≤ names.length then
      some (items.map some ++ List.replicate (names.length - items.length) none)
    else none
  | _ => none

def required {α : Type} (read : Json → Option α) (value : Option Json) : Option α := value.bind read

def defaulted {α : Type} (absent : α) (read : Json → Option α) : Option Json → Option α
  | none => some absent
  | some json => read json

def optional {α : Type} (read : Json → Option α) : Option Json → Option (Option α)
  | none => some none
  | some .null => some none
  | some json => (read json).map some

def list? {α : Type} (read : Json → Option α) : Json → Option (List α)
  | .array items => items.mapM read
  | _ => none

def member (name : String) (value : Json) : Bytes × Json := (escape name, value)

end Coffer.Json
