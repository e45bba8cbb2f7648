import Upkeep.Document.Record
import Upkeep.Hcl.Reader
import Upkeep.Json.Reader
import Upkeep.Text.Blank
import Upkeep.Toml.Reader

/-!
The formats of specification files. The extension of a path tells the format of its file; without a
known extension it is JSON.
-/

set_option autoImplicit false

namespace Upkeep

inductive Format where
  | json
  | toml
  | hcl
  deriving DecidableEq, Repr

/-- What follows the last point in the last name of a path. A name that only begins with a point has
no extension, and neither has the parent directory. -/
def pathExtension? (path : String) : Option (List Char) := do
  let names := Text.splitAt '/' path.toList
  let name ← (names.filter fun name => name ≠ [] ∧ name ≠ ['.']).getLast?
  if name = ['.', '.'] then none
  match ← Text.splitLast? '.' name with
  | ([], _) => none
  | (_, extension) => some extension

namespace Format

def ofPath (path : String) : Format :=
  match (pathExtension? path).map fun e => e.map Char.toLower with
  | some ['t', 'o', 'm', 'l'] => .toml
  | some ['h', 'c', 'l'] => .hcl
  | _ => .json

def name : Format → String
  | .json => "JSON"
  | .toml => "TOML"
  | .hcl => "HCL"

def dialect : Format → Dialect
  | .json => .json
  | .toml => .toml
  | .hcl => .hcl

/-- The document that a text in this format holds. -/
def read : Format → String → Option Document
  | .json, s => Json.read s
  | .toml, s => Toml.read s
  | .hcl, s => Hcl.read s

end Format

end Upkeep
