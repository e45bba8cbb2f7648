/-!
Values under names, in ascending order of the names: by code point, which is also the order of
their UTF-8 bytes. Each name occurs once; storing under a name that is there replaces the value.
-/

set_option autoImplicit false

namespace Upkeep

abbrev Named (α : Type) := List (String × α)

namespace Named

variable {α : Type}

def Ascending (m : Named α) : Prop := m.Pairwise fun a b => a.1 < b.1

def insert (name : String) (x : α) : Named α → Named α
  | [] => [(name, x)]
  | (other, y) :: rest =>
    if name < other then (name, x) :: (other, y) :: rest
    else if name = other then (name, x) :: rest
    else (other, y) :: insert name x rest

/-- Later values replace earlier ones of the same name. -/
def ofList (entries : List (String × α)) : Named α :=
  entries.foldl (fun m e => insert e.1 e.2 m) []

def names (m : Named α) : List String := m.map (·.1)

/-- Replaces the value under a name that is there. -/
def replace (name : String) (x : α) (m : Named α) : Named α :=
  m.map fun e => if e.1 = name then (name, x) else e

end Named

end Upkeep
