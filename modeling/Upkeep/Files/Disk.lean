import Upkeep.Bytes.Basic

/-!
A file system: what stands at each location below the root, the directory from which relative paths
start, and the home directory.
-/

set_option autoImplicit false

namespace Upkeep

abbrev Location := List String

inductive Entry where
  | file (content : Bytes)
  | directory
  | link (target : String)
  /-- Takes everything and holds nothing. -/
  | nullDevice
  /-- Has no space for anything. -/
  | fullDevice
  deriving DecidableEq, Repr

structure Disk where
  entries : List (Location × Entry)
  here : Location
  home : String
  deriving DecidableEq, Repr

namespace Disk

/-- The root itself is a directory. -/
def find? (d : Disk) (loc : Location) : Option Entry :=
  if loc = [] then some .directory else d.entries.lookup loc

/-- The entry of a location replaced, or put at the end. -/
def putEntry (loc : Location) (e : Entry) : List (Location × Entry) → List (Location × Entry)
  | [] => [(loc, e)]
  | (other, f) :: rest =>
    if other = loc then (loc, e) :: rest else (other, f) :: putEntry loc e rest

def put (d : Disk) (loc : Location) (e : Entry) : Disk :=
  { d with entries := putEntry loc e d.entries }

theorem lookup_cons_eq (loc other : Location) (e : Entry) (es : List (Location × Entry)) :
    ((other, e) :: es).lookup loc = if loc = other then some e else es.lookup loc := by
  by_cases h : loc = other
  · simp [h]
  · rw [List.lookup_cons, if_neg h, beq_false_of_ne h]

theorem lookup_putEntry (loc loc' : Location) (e : Entry) (es : List (Location × Entry)) :
    (putEntry loc e es).lookup loc' = if loc' = loc then some e else es.lookup loc' := by
  induction es with
  | nil => simp only [putEntry, lookup_cons_eq]
  | cons head rest ih =>
    obtain ⟨other, f⟩ := head
    by_cases ho : other = loc
    · subst ho
      by_cases h : loc' = other <;> simp [putEntry, lookup_cons_eq, h]
    · by_cases h : loc' = loc
      · subst h
        have hne : ¬ loc' = other := fun hh => ho hh.symm
        simp [putEntry, lookup_cons_eq, ho, hne, ih]
      · simp [putEntry, lookup_cons_eq, ho, h, ih]

theorem find?_put (d : Disk) {loc : Location} (loc' : Location) (e : Entry) (h : loc ≠ []) :
    (d.put loc e).find? loc' = if loc' = loc then some e else d.find? loc' := by
  by_cases h' : loc' = []
  · subst h'
    simp [find?, Ne.symm h]
  · simp [find?, put, h', lookup_putEntry]

/-- A directory and all those that it lies in, as far as nothing stands there. -/
def putDirectory (d : Disk) (loc : Location) : Disk :=
  (List.range loc.length).foldl (fun d n =>
    let above := loc.take (n + 1)
    if (d.find? above).isSome then d else d.put above .directory) d

/-- An entry with all the directories that it lies in. -/
def putWithParents (d : Disk) (loc : Location) (e : Entry) : Disk :=
  (d.putDirectory loc.dropLast).put loc e

/-- What lies below a location, each with the names from there on. -/
def below (d : Disk) (loc : Location) : List (Location × Entry) :=
  d.entries.filterMap fun (other, e) =>
    if loc.length < other.length && other.take loc.length == loc then
      some (other.drop loc.length, e)
    else none

end Disk

end Upkeep
