import Upkeep.Text.Blank

/-!
The label of a private key in a text: between a line that begins the key and one that ends it, both
of which name the label. Whatever stands around them does not matter here.
-/

set_option autoImplicit false

namespace Upkeep.Key

def beginMark : List Char := "-----BEGIN ".toList

def endMark : List Char := "-----END ".toList

def closingMark : List Char := "-----".toList

/-- What every label of a private key ends in. -/
def labelEnding : List Char := "PRIVATE KEY".toList

/-- What follows `start` in a list that starts with it. -/
def after? {α : Type} [BEq α] (start : List α) (l : List α) : Option (List α) :=
  if start.isPrefixOf l then some (l.drop start.length) else none

/-- What goes before `final` in a list that ends with it. -/
def before? {α : Type} [BEq α] (final : List α) (l : List α) : Option (List α) :=
  if final.isSuffixOf l then some (l.take (l.length - final.length)) else none

/-- The lines of a text without the blanks around each. -/
def trimmedLines (s : String) : List (List Char) := (Text.lines s).map Text.trimChars

/-- The first line that begins a key, with the lines after it. -/
def findBegin : List (List Char) → Option (List Char × List (List Char))
  | [] => none
  | line :: rest => if beginMark.isPrefixOf line then some (line, rest) else findBegin rest

/-- The label of the private key that a text holds. -/
def label? (s : String) : Option (List Char) := do
  let (line, rest) ← findBegin (trimmedLines s)
  let label ← before? closingMark (← after? beginMark line)
  if labelEnding.isSuffixOf label && rest.contains (endMark ++ label ++ closingMark) then
    some label
  else none

end Upkeep.Key
