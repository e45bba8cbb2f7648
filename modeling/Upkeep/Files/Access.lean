import Upkeep.Files.Home
import Upkeep.Files.Walk

/-!
Opening, reading and writing files. What is open is a location, so that a file that is emptied after
it has been opened reads as empty.
-/

set_option autoImplicit false

namespace Upkeep.Disk

/-- Opens for reading, which a directory allows. -/
def openRead (d : Disk) (path : String) : Except IoFault Location :=
  match d.locate false path with
  | .error cause => .error cause
  | .ok ⟨.missing _ _, _⟩ => .error .noEntry
  | .ok ⟨.there loc, asDirectory⟩ =>
    if asDirectory && d.find? loc != some .directory then .error .notDirectory else .ok loc

def contentAt (d : Disk) (loc : Location) : Except IoFault Bytes :=
  match d.find? loc with
  | some (.file content) => .ok content
  | some .directory => .error .isDirectory
  | _ => .ok []

/-- Opens for writing: a file is emptied, and one that is missing is created. -/
def openWrite (d : Disk) (path : String) : Except IoFault (Location × Disk) :=
  match d.locate true path with
  | .error cause => .error cause
  | .ok ⟨.missing parent name, _⟩ => .ok (parent ++ [name], d.put (parent ++ [name]) (.file []))
  | .ok ⟨.there loc, _⟩ =>
    match d.find? loc with
    | some (.file _) => .ok (loc, d.put loc (.file []))
    | some .directory => .error .isDirectory
    | _ => .ok (loc, d)

def appendAt (d : Disk) (loc : Location) (bs : Bytes) : Except IoFault Disk :=
  match d.find? loc with
  | some (.file content) => .ok (d.put loc (.file (content ++ bs)))
  | some .fullDevice => if bs.isEmpty then .ok d else .error .noSpace
  | _ => .ok d

/-- Makes what has been written last; devices refuse. -/
def syncAt (d : Disk) (loc : Location) : Except IoFault Unit :=
  match d.find? loc with
  | some .nullDevice | some .fullDevice => .error .invalidArgument
  | _ => .ok ()

def read (d : Disk) (path : String) : Except IoFault Bytes :=
  match d.openRead path with
  | .ok loc => d.contentAt loc
  | .error cause => .error cause

def readText (d : Disk) (path : String) : Except IoFault String :=
  match d.read path with
  | .ok content =>
    match Bytes.text? content with
    | some s => .ok s
    | none => .error .notText
  | .error cause => .error cause

/-- The file that a path with a leading `~` names. -/
def expand (d : Disk) (path : String) : String := Upkeep.expand d.home path

end Upkeep.Disk
