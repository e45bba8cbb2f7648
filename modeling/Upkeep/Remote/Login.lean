import Upkeep.Auth.Method
import Upkeep.Remote.Destination

/-!
Everything that is settled about a connection before a server is called.
-/

set_option autoImplicit false

namespace Upkeep.Remote

structure Login where
  destination : Destination
  username : String
  /-- Tried in turn. -/
  methods : List AuthMethod
  deriving DecidableEq, Repr

/-- Credentials are looked at first, and then the destination. -/
def login (words : Key.Words) (d : Disk) (m : Machine) : Except Fault Login := do
  let methods ← authMethods words d m.auth
  let destination ← Destination.parse m.destination
  return ⟨destination, m.username, methods⟩

def Login.note (l : Login) (name : String) : Note :=
  ⟨.info, name ++ ": connecting to " ++ l.destination.host ++ ":" ++ toString l.destination.port ++
    " as " ++ l.username⟩

end Upkeep.Remote
