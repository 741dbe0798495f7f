import Coffer.Bytes
/-!
# Documents

A document keeps the spelling of its numbers and strings: whether a spelling is accepted depends on
what the value is used for, and a value that is never used may hold anything that the grammar
allows. Writing puts no space anywhere.
-/

namespace Coffer

/-- A document. Numbers and strings hold their spelling, strings without the quotes around them;
members of an object stay in their order, repeated ones included. -/
inductive Json where
  | null
  | bool (value : Bool)
  | number (spelling : Bytes)
  | text (spelling : Bytes)
  | array (items : List Json)
  | object (members : List (Bytes × Json))

namespace Json

def quote (spelling : Bytes) : Bytes := 0x22 :: spelling ++ [0x22]

mutual

def render : Json → Bytes
  | .null => [0x6e, 0x75, 0x6c, 0x6c]
  | .bool true => [0x74, 0x72, 0x75, 0x65]
  | .bool false => [0x66, 0x61, 0x6c, 0x73, 0x65]
  | .number spelling => spelling
  | .text spelling => quote spelling
  | .array items => 0x5b :: renderItems items
  | .object members => 0x7b :: renderMembers members

def renderItems : List Json → Bytes
  | [] => [0x5d]
  | [item] => item.render ++ [0x5d]
  | item :: others => item.render ++ 0x2c :: renderItems others

def renderMembers : List (Bytes × Json) → Bytes
  | [] => [0x7d]
  | [(key, value)] => quote key ++ 0x3a :: value.render ++ [0x7d]
  | (key, value) :: others => quote key ++ 0x3a :: value.render ++ 0x2c :: renderMembers others

end

mutual

def depth : Json → Nat
  | .array items => depthItems items + 1
  | .object members => depthMembers members + 1
  | _ => 0

def depthItems : List Json → Nat
  | [] => 0
  | item :: others => max item.depth (depthItems others)

def depthMembers : List (Bytes × Json) → Nat
  | [] => 0
  | (_, value) :: others => max value.depth (depthMembers others)

end

end Json

end Coffer
