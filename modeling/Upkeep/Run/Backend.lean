import Upkeep.Remote.Login
import Upkeep.Run.Machines
import Upkeep.Target.Local

/-!
Connecting to machines as their kinds say: to the machine at hand at once, and to others over SSH by
means of a given way to call a server.
-/

set_option autoImplicit false

namespace Upkeep

/-- Calls a server, once everything about the connection has been settled. -/
abbrev Caller := (name : String) → Remote.Login → Op Disk (Target Disk)

/-- There is no way to call a server. -/
def noCaller : Caller := fun name _ => Op.fail (.remoteUnavailable name)

def hereNote (name : String) : Note := ⟨.info, "Using local host as machine " ++ name⟩

def backend (words : Key.Words) (call : Caller) : Connector Disk := fun name m d =>
  match m.kind with
  | .here => ⟨.ok (localTarget name), d, [hereNote name]⟩
  | .ssh =>
    match Remote.login words d m with
    | .error f => ⟨.error f, d, authNotes words d m.auth⟩
    | .ok login =>
      let (target, d') := call name login d
      ⟨target, d', authNotes words d m.auth ++ [login.note name]⟩

end Upkeep
