import Upkeep.Run.Machines
import Upkeep.Target.Memory

/-!
Machines held in memory, beside the local files.
-/

set_option autoImplicit false

namespace Upkeep

structure Site where
  disk : Disk
  memories : Named Memory

namespace Site

def memory (name : String) (s : Site) : Memory := (s.memories.lookup name).getD {}

def setMemory (name : String) (m : Memory) (s : Site) : Site :=
  { s with memories := s.memories.replace name m }

def setDisk (d : Disk) (s : Site) : Site := { s with disk := d }

/-- Connects to a machine that is there; any other refuses. -/
def connector (matcher : Matcher) : Connector Site := fun name _ s =>
  { target :=
      if s.memories.names.contains name then
        .ok ((Memory.target matcher name).on (memory name) (setMemory name))
      else .error (.io (.custom (name ++ ": connection refused")))
    world := s }

end Site

end Upkeep
