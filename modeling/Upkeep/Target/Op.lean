import Upkeep.Fault

/-!
Steps that act on a world and may fail. A step that fails has still left the world as it then was:
nothing is undone.
-/

set_option autoImplicit false

namespace Upkeep

def Op (σ α : Type) := σ → Except Fault α × σ

namespace Op

variable {σ τ α β : Type}

/-- The steps after a fault are not taken. -/
protected def bind (op : Op σ α) (next : α → Op σ β) : Op σ β := fun s =>
  match op s with
  | (.ok x, s') => next x s'
  | (.error f, s') => (.error f, s')

instance : Monad (Op σ) where
  pure x := fun s => (.ok x, s)
  bind := Op.bind

theorem pure_apply (x : α) (s : σ) : (pure x : Op σ α) s = (.ok x, s) := rfl

theorem bind_apply (op : Op σ α) (next : α → Op σ β) (s : σ) :
    (op >>= next) s = match op s with
      | (.ok x, s') => next x s'
      | (.error f, s') => (.error f, s') := rfl

def fail (f : Fault) : Op σ α := fun s => (.error f, s)

def look (f : σ → Except Fault α) : Op σ α := fun s => (f s, s)

/-- A step on a part of the world; the rest stays as it is. -/
def on (part : τ → σ) (replace : σ → τ → τ) (op : Op σ α) : Op τ α := fun t =>
  ((op (part t)).1, replace (op (part t)).2 t)

end Op

end Upkeep
