/-!
Why a text is no pattern, and what is noted of one that is a pattern all the same.
-/

set_option autoImplicit false

namespace Upkeep

inductive PatternFlaw where
  | unclosedGroup
  /-- The text ends where a set has just begun. -/
  | unbegunSet
  | unclosedSet
  | invalidRange
  | trailingBackslash
  | invalidRecall
  | unknownClass
  | invalidCollation
  | invalidInterval
  | tooBig
  /-- A greatest number that is too big, where there may be nothing to repeat. -/
  | tooMany
  /-- A class without the set that it has to stand in. -/
  | bareClass
  deriving DecidableEq, Repr

def PatternFlaw.message : PatternFlaw → String
  | .unclosedGroup => "Unmatched ( or \\("
  | .unbegunSet => "Invalid regular expression"
  | .unclosedSet => "Unmatched [, [^, [:, [., or [="
  | .invalidRange => "Invalid range end"
  | .trailingBackslash => "Trailing backslash"
  | .invalidRecall => "Invalid back reference"
  | .unknownClass => "Invalid character class name"
  | .invalidCollation => "Invalid collation character"
  | .invalidInterval => "Invalid content of \\\x7b\\\x7d"
  | .tooBig => "Regular expression too big"
  | .tooMany => "regular expression too big"
  | .bareClass => "character class syntax is [[:space:]], not [:space:]"

inductive Mark where
  | star
  | plus
  | question
  | braces
  deriving DecidableEq, Repr

namespace Mark

def text : Mark → String
  | .star => "*"
  | .plus => "+"
  | .question => "?"
  | .braces => "\x7b...\x7d"

/-- The note on a mark before which there is nothing to repeat. -/
def note (m : Mark) : String := "warning: " ++ m.text ++ " at start of expression"

end Mark

end Upkeep
