import Upkeep.CommandLine.Paths

/-!
The program. The files that it has to do with are read before it starts, and those that it has
changed are written back.
-/

set_option autoImplicit false

namespace Upkeep.Main

open CommandLine

def pathText (loc : Location) : String := "/" ++ String.intercalate "/" loc

/-- What stands at a location, links followed. Where nothing can be read, nothing stands. -/
def entryAt (loc : Location) : IO (Option Entry) := do
  let path := pathText loc
  if path = "/dev/null" then return some .nullDevice
  if path = "/dev/full" then return some .fullDevice
  try
    match (← ((← IO.currentDir) / path).metadata).type with
    | .dir => return some .directory
    | .file => return some (.file (← IO.FS.readBinFile path).toList)
    | _ => return some .nullDevice
  catch _ => return none

def readEntry (d : Disk) (loc : Location) : IO Disk := do
  if (d.find? loc).isSome then return d
  match ← entryAt loc with
  | some e => return d.put loc e
  | none => return d

def readPath (d : Disk) (path : String) : IO Disk := do
  let mut d := d
  let mut loc : Location := []
  for name in (if isAbsolute path then [] else d.here) ++ pathNames path do
    if name = ".." then loc := loc.dropLast
    else if name ≠ "." then loc := loc ++ [name]
    d ← readEntry d loc
  return d

def readPaths (d : Disk) (paths : List String) : IO Disk := paths.foldlM readPath d

def writeChanges (before after : Disk) : IO Unit := do
  for (loc, e) in after.entries do
    if before.find? loc ≠ some e then
      if let .file content := e then
        IO.FS.writeBinFile (pathText loc) (ByteArray.mk content.toArray)

/-- No decoder has words of its own here. -/
def wording : Wording where
  targets _ _ := "this does not tell of machines"
  assertions _ _ := "this does not tell of assertions"
  keys _ _ := "this is no key"

def threshold : Option String → Option Level
  | some "off" => none
  | some "error" => some .error
  | some "info" => some .info
  | _ => some .warn

end Upkeep.Main

def main (arguments : List String) : IO UInt32 := do
  let here := Upkeep.pathNames (← IO.currentDir).toString
  let home := (← IO.getEnv "HOME").getD ""
  let empty : Upkeep.Disk := { entries := [], here := here, home := home }
  let d ← Upkeep.Main.readPath empty "."
  let d ← Upkeep.Main.readPaths d (Upkeep.CommandLine.namedFiles arguments)
  let d ← Upkeep.Main.readPaths d (Upkeep.CommandLine.filesWithin arguments d)
  let threshold := Upkeep.Main.threshold (← IO.getEnv "RUST_LOG")
  let finish := Upkeep.CommandLine.start Upkeep.Main.wording Upkeep.noCaller threshold arguments d
  Upkeep.Main.writeChanges d finish.disk
  IO.print finish.output
  IO.eprint finish.complaint
  return finish.exit.toUInt32
