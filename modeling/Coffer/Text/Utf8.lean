import Coffer.Bytes
/-!
# Reading UTF-8

Bytes that are no UTF-8 are refused with the place where they stop being so. A sequence is broken
after the bytes that could still have started a character, and cut when the input ends before the
sequence does.
-/

namespace Coffer.Text.Utf8

/-- Where a byte string stops being UTF-8. -/
inductive Fault where
  | invalid (count index : Nat)
  /-- The input ends inside the character that starts at `index`. -/
  | incomplete (index : Nat)
  deriving DecidableEq, Repr

def Fault.message : Fault → String
  | .invalid count index => s!"invalid utf-8 sequence of {count} bytes from index {index}"
  | .incomplete index => s!"incomplete utf-8 byte sequence from index {index}"

/-- The ranges that the bytes after a first byte lie in; nothing for a byte that starts no
character. -/
def followers (first : UInt8) : Option (List (UInt8 × UInt8)) :=
  if first < 0x80 then some []
  else if first < 0xc2 then none
  else if first ≤ 0xdf then some [(0x80, 0xbf)]
  else if first = 0xe0 then some [(0xa0, 0xbf), (0x80, 0xbf)]
  else if first = 0xed then some [(0x80, 0x9f), (0x80, 0xbf)]
  else if first ≤ 0xef then some [(0x80, 0xbf), (0x80, 0xbf)]
  else if first = 0xf0 then some [(0x90, 0xbf), (0x80, 0xbf), (0x80, 0xbf)]
  else if first ≤ 0xf3 then some [(0x80, 0xbf), (0x80, 0xbf), (0x80, 0xbf)]
  else if first = 0xf4 then some [(0x80, 0x8f), (0x80, 0xbf), (0x80, 0xbf)]
  else none

/-- The first fault of a byte string, when `matched` bytes of the character that starts at `start`
are behind and the ranges in `pending` are still to be met. -/
def faultAfter (start matched : Nat) (pending : List (UInt8 × UInt8)) : Bytes → Option Fault
  | [] => if pending.isEmpty then none else some (.incomplete start)
  | byte :: rest =>
    match pending with
    | (low, high) :: later =>
      if low ≤ byte && byte ≤ high then faultAfter start (matched + 1) later rest
      else some (.invalid matched start)
    | [] =>
      match followers byte with
      | some later => faultAfter (start + matched) 1 later rest
      | none => some (.invalid 1 (start + matched))

def fault? (bytes : Bytes) : Option Fault := faultAfter 0 0 [] bytes

/-- The text that a byte string encodes, or where it fails to. -/
def decode (bytes : Bytes) : Except Fault String :=
  match bytes.toText? with
  | some text => .ok text
  | none => .error ((fault? bytes).getD (.incomplete bytes.length))

@[simp] theorem decode_ofText (text : String) : decode (Bytes.ofText text) = .ok text := by
  simp [decode]

end Coffer.Text.Utf8
