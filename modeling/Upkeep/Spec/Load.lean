import Upkeep.Files.Access
import Upkeep.Spec.Decode

/-!
Specifications from files. The path is taken as it is, without regard to a leading `~`.
-/

set_option autoImplicit false

namespace Upkeep

def Group.load (d : Disk) (path : String) : Except SpecError Group :=
  match d.readText path with
  | .ok s => parse (some path) (.ofPath path) s
  | .error cause => .error (.unreadable path cause)

def Fleet.load (d : Disk) (path : String) : Except SpecError Fleet :=
  match d.readText path with
  | .ok s => parse (some path) (.ofPath path) s
  | .error cause => .error (.unreadable path cause)

end Upkeep
