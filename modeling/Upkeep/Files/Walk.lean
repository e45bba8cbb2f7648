import Upkeep.Fault
import Upkeep.Files.Disk
import Upkeep.Text.Blank

/-!
From paths to locations. A path is walked name by name from the working directory or, if it begins
with a slash, from the root; links on the way are followed. The walk ends at something or at a name
that is missing in its directory.
-/

set_option autoImplicit false

namespace Upkeep

def pathNames (path : String) : List String :=
  ((Text.splitAt '/' path.toList).filter fun name => !name.isEmpty).map String.ofList

def isAbsolute (path : String) : Bool := path.toList.head? == some '/'

def endsInSlash (path : String) : Bool := path.toList.getLast? == some '/'

inductive Place where
  | there (loc : Location)
  /-- There is no such name in a directory that exists. -/
  | missing (parent : Location) (name : String)
  deriving DecidableEq, Repr

/-- Where a walk ends, and whether only a directory will do there. -/
structure Arrival where
  place : Place
  asDirectory : Bool
  deriving DecidableEq, Repr

def maxNameLength : Nat := 255

/-- The length from which on a path is too long, in bytes. -/
def pathLengthLimit : Nat := 4096

def maxLinks : Nat := 40

namespace Disk

/-- Walks along names. A link is handed to `follow` with the directory where its target begins and
the names to walk from there; with `creating`, a last name that must be a directory is refused. -/
def walkNames (d : Disk) (creating : Bool)
    (follow : Location → List String → Bool → Except IoFault Arrival) :
    Location → List String → Bool → Except IoFault Arrival
  | loc, [], asDirectory => .ok ⟨.there loc, asDirectory⟩
  | loc, name :: rest, asDirectory =>
    if d.find? loc ≠ some .directory then .error .notDirectory
    else if name = "." then walkNames d creating follow loc rest asDirectory
    else if name = ".." then walkNames d creating follow loc.dropLast rest asDirectory
    else if creating && asDirectory && rest.isEmpty then .error .isDirectory
    else if maxNameLength < name.utf8ByteSize then .error .nameTooLong
    else
      match d.find? (loc ++ [name]) with
      | none => if rest.isEmpty then .ok ⟨.missing loc name, asDirectory⟩ else .error .noEntry
      | some (.link target) =>
        follow (if isAbsolute target then [] else loc) (pathNames target ++ rest)
          (asDirectory || (rest.isEmpty && endsInSlash target))
      | some _ => walkNames d creating follow (loc ++ [name]) rest asDirectory

/-- Walks along names with so many links left to follow. -/
def walk (d : Disk) (creating : Bool) :
    Nat → Location → List String → Bool → Except IoFault Arrival
  | 0 => walkNames d creating fun _ _ _ => .error .tooManyLinks
  | links + 1 => walkNames d creating (walk d creating links)

def locate (d : Disk) (creating : Bool) (path : String) : Except IoFault Arrival :=
  if path.toList.contains '\x00' then .error .nulInPath
  else if path = "" then .error .noEntry
  else if pathLengthLimit ≤ path.utf8ByteSize then .error .nameTooLong
  else
    d.walk creating maxLinks (if isAbsolute path then [] else d.here) (pathNames path)
      (endsInSlash path)

end Disk

end Upkeep
