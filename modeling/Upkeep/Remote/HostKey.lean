import Upkeep.Fault
import Upkeep.Machine.Basic

/-!
Whether a server is who it should be.
-/

set_option autoImplicit false

namespace Upkeep

/-- The verdict on a server that has presented no key. -/
def Machine.verifyWithoutKey (m : Machine) : Except Fault Unit :=
  match m.hostKey with
  | .acceptAny => .ok ()
  | .knownHosts => .error (.hostKey m.destination "server presented no host key")

end Upkeep
