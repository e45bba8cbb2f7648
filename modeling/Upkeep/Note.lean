/-!
Log lines.
-/

set_option autoImplicit false

namespace Upkeep

inductive Level where
  | info
  | warn
  | error
  deriving DecidableEq, Repr

namespace Level

def name : Level → String
  | .info => "INFO"
  | .warn => "WARN"
  | .error => "ERROR"

/-- The more severe a level, the greater. -/
def severity : Level → Nat
  | .info => 0
  | .warn => 1
  | .error => 2

end Level

structure Note where
  level : Level
  message : String
  deriving DecidableEq, Repr

def Note.line (n : Note) : String := n.level.name ++ " " ++ n.message

end Upkeep
