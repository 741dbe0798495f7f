import Coffer.Json.Number
import Coffer.Json.Text
import Coffer.Setting
/-!
# Settings in JSON

Every part of the document has to be usable, also what no one asks for, and nesting is bounded. Of
repeated members the last one counts.
-/

namespace Coffer.Setting

def depthLimit : Nat := 127

def ofSpelling? (spelling : Bytes) : Option Setting :=
  if Json.isFinite spelling then
    let characters := spelling.map fun byte => Char.ofNat byte.toNat
    match whole? characters with
    | some value => some (.whole value)
    | none => decimal? characters
  else none

mutual

def ofJson? : Json → Option Setting
  | .null => some .absent
  | .bool value => some (.flag value)
  | .number spelling => ofSpelling? spelling
  | .text spelling => (Json.spelledText? spelling).map .text
  | .array items => (ofItems? items).map .list
  | .object members => (ofMembers? [] members).map .table

def ofItems? : List Json → Option (List Setting)
  | [] => some []
  | item :: others => do
    let first ← ofJson? item
    let later ← ofItems? others
    some (first :: later)

def ofMembers? (entries : List (String × Setting)) : List (Bytes × Json) →
    Option (List (String × Setting))
  | [] => some entries
  | (key, value) :: others => do
    let name ← Json.spelledText? key
    let setting ← ofJson? value
    ofMembers? (put name setting entries) others

end

def readJson? (text : String) : Option Setting := do
  let json ← Json.read? (Bytes.ofText text)
  if json.depth ≤ depthLimit then ofJson? json else none

end Coffer.Setting
