import Upkeep.Text.Unprintable

/-!
Quoted texts for messages: between quotation marks, with everything that would not show on a
terminal written as an escape. Two dialects differ only in which quotation marks they escape.
-/

set_option autoImplicit false

namespace Upkeep.Text

/-- A number in lower-case hexadecimal digits without leading zeros. -/
def hexNumber (n : Nat) : String := String.ofList (Nat.toDigits 16 n)

/-- One character of a quoted text; `marks` are the quotation marks to escape. -/
def escapeChar (marks : List Char) (c : Char) : String :=
  if c = '\x00' then "\\0"
  else if c = '\t' then "\\t"
  else if c = '\r' then "\\r"
  else if c = '\n' then "\\n"
  else if c = '\\' then "\\\\"
  else if marks.contains c then String.ofList ['\\', c]
  else if isUnprintable c then "\\u\x7b" ++ hexNumber c.toNat ++ "\x7d"
  else c.toString

/-- A name in double quotation marks; the single mark stands for itself. -/
def quoted (s : String) : String :=
  "\"" ++ String.join (s.toList.map (escapeChar ['\x22'])) ++ "\""

/-- A path in double quotation marks; both marks are escaped. -/
def quotedPath (s : String) : String :=
  "\"" ++ String.join (s.toList.map (escapeChar ['\x22', '\x27'])) ++ "\""

/-- One character in single quotation marks; the double mark stands for itself. -/
def quotedChar (c : Char) : String := "'" ++ escapeChar ['\x27'] c ++ "'"

end Upkeep.Text
