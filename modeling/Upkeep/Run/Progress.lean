import Upkeep.Note
import Upkeep.Run.Event
import Upkeep.Target.Op

/-!
A run under way: the world it acts on, how deep it is in nested sets of assertions, and what it has
reported and noted so far.
-/

set_option autoImplicit false

namespace Upkeep

structure Progress (σ : Type) where
  world : σ
  depth : Nat := 0
  events : List Event := []
  notes : List Note := []

abbrev Step (σ α : Type) := Op (Progress σ) α

namespace Progress

variable {σ : Type}

def report (p : Progress σ) (e : Event) : Progress σ := { p with events := p.events ++ [e] }

def note (p : Progress σ) (level : Level) (message : String) : Progress σ :=
  { p with notes := p.notes ++ [⟨level, message⟩] }

end Progress

namespace Step

variable {σ α : Type}

def ofOp (op : Op σ α) : Step σ α :=
  op.on Progress.world fun s p => { p with world := s }

def report (e : Event) : Step σ Unit := fun p => (.ok (), p.report e)

def note (level : Level) (message : String) : Step σ Unit := fun p =>
  (.ok (), p.note level message)

def deeper (step : Step σ α) : Step σ α := fun p =>
  match step { p with depth := p.depth + 1 } with
  | (r, p') => (r, { p' with depth := p'.depth - 1 })

end Step

end Upkeep
