import Upkeep.Fault
import Upkeep.Text.Blank

/-!
Reading the answers of the commands that digest and search files.
-/

set_option autoImplicit false

namespace Upkeep

/-- The digest that a checksum command has printed: the first word, in hexadecimal digits. -/
def digestIn (output : Bytes) : Except Fault Bytes :=
  let text := Bytes.lossyText output
  (Hex.decode (Text.firstWord text)).mapError (.hashOutput (Text.trim text))

/-- What the exit status of a search says: found, not found, or neither. -/
def searchOutcome : Option Int → Option Bool
  | some 0 => some true
  | some 1 => some false
  | _ => none

end Upkeep
