import Upkeep.Assertion.Validity
import Upkeep.Fault
import Upkeep.Machine.Validity
import Upkeep.Spec.Format

/-!
Why a specification is refused: its file cannot be read, its text does not decode, or what it says
is not complete. Each message begins with the outermost circumstance.
-/

set_option autoImplicit false

namespace Upkeep

inductive SpecError where
  | unreadable (path : String) (cause : IoFault)
  /-- The path is absent where the text does not come from a file. -/
  | undecodable (path : Option String) (format : Format) (text : String)
  | flawedAssertions (path : Option String) (flaw : AssertionFlaw)
  | flawedMachines (path : Option String) (flaw : FleetFlaw)
  deriving DecidableEq, Repr

/-- A circumstance and the path it is about, in front of a message; nothing without a path. -/
def inFile (circumstance : String) : Option String → String
  | some path => circumstance ++ " " ++ path ++ ": "
  | none => ""

/-- What a decoder says of a text that it cannot decode. -/
abbrev SpecWords := (format : Format) → (text : String) → String

def SpecError.message (words : SpecWords) : SpecError → String
  | .unreadable path cause => "Failed to read " ++ path ++ ": " ++ cause.message
  | .undecodable path format text =>
    inFile "Invalid spec file" path ++ "Failed to parse " ++ format.name ++ ": " ++
      words format text
  | .flawedAssertions path flaw => inFile "Invalid assertions in" path ++ flaw.message
  | .flawedMachines path flaw => inFile "Invalid targets in" path ++ flaw.message

end Upkeep
