import Coffer.Text.Escapable
/-!
# Quoted text

Text and single characters as they are shown in messages: between quotes, with the quote itself and
the backslash escaped, the usual short escapes for line feed, return, tab and NUL, and every
character that has no shape of its own by its number.
-/

namespace Coffer.Text

def hexNumber (value : Nat) : String := String.ofList (Nat.toDigits 16 value)

def quotedChar (quote c : Char) : String :=
  if c = quote || c = '\\' then String.ofList ['\\', c]
  else if c = '\n' then "\\n"
  else if c = '\r' then "\\r"
  else if c = '\t' then "\\t"
  else if c = '\x00' then "\\0"
  else if isEscapable c then "\\u\x7b" ++ hexNumber c.toNat ++ "\x7d"
  else c.toString

def quoted (text : String) : String :=
  "\"" ++ String.join (text.toList.map (quotedChar '"')) ++ "\""

def quotedSingle (c : Char) : String := "'" ++ quotedChar '\'' c ++ "'"

end Coffer.Text
