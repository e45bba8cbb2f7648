import Upkeep.Bytes.MD5
import Upkeep.Files.Access
import Upkeep.Pattern.Lines
import Upkeep.Shell.Shown
import Upkeep.Target.Answer
import Upkeep.Target.Basic

/-!
The machine that the program runs on. Files are read and written directly. To digest and to search
them, commands are run, which take a lone hyphen for their input; it is empty.
-/

set_option autoImplicit false

namespace Upkeep

structure CommandResult where
  status : Int
  output : Bytes := []
  complaint : String := ""
  deriving DecidableEq, Repr

/-- The length from which on the argument of a command is too long. -/
def argumentLengthLimit : Nat := 131072

/-- Whether a command can be run with these arguments. -/
def checkArguments (arguments : List String) : Except IoFault Unit :=
  if arguments.any fun a => a.toList.contains '\x00' then .error .nulInArgument
  else if arguments.any fun a => argumentLengthLimit ≤ a.utf8ByteSize then
    .error .argumentsTooLong
  else .ok ()

/-- The operand that stands for the input of a command. -/
def inputOperand : String := "-"

/-- The system's words for why something failed, without the error number. -/
def IoFault.words : IoFault → String
  | .system number => systemText number
  | .custom text => text

namespace Disk

def readOperand (d : Disk) (operand : String) : Except IoFault Bytes :=
  if operand = inputOperand then .ok [] else d.read operand

/-- How a name stands in the output of the checksum command. -/
def escapeName (c : Char) : List Char :=
  if c = '\\' then ['\\', '\\']
  else if c = '\n' then ['\\', 'n']
  else if c = '\r' then ['\\', 'r']
  else [c]

/-- The line that the checksum command prints. It begins with a backslash if the name has escapes. -/
def checksumLine (digest : Bytes) (name : String) : List Char :=
  let escaped := name.toList.flatMap escapeName
  (if escaped = name.toList then [] else ['\\']) ++ Hex.encodeChars digest ++ [' ', ' '] ++
    escaped ++ ['\n']

def runChecksum (d : Disk) (operand : String) : CommandResult :=
  match d.readOperand operand with
  | .ok content =>
    { status := 0
      output := Bytes.ofString (String.ofList (checksumLine (MD5.digest content) operand)) }
  | .error cause =>
    { status := 1, complaint := "md5sum: " ++ Shell.shown operand ++ ": " ++ cause.words ++ "\n" }

/-- A line in which the search command complains. -/
def searchComplaint (text : String) : String := "grep: " ++ text ++ "\n"

/-- Status 2 tells of trouble. Patterns are looked at before the file. -/
def runSearch (d : Disk) (operand pattern : String) : CommandResult :=
  let readings := Pattern.readAll (Bytes.ofString pattern)
  let notes := String.join (readings.notes.map fun m => searchComplaint m.note)
  match readings.result with
  | .error flaws =>
    { status := 2
      complaint := notes ++ String.join (flaws.map fun flaw => searchComplaint flaw.message) }
  | .ok patterns =>
    match d.readOperand operand with
    | .ok content =>
      { status := if Pattern.anyLine patterns content then 0 else 1, complaint := notes }
    | .error cause =>
      { status := 2, complaint := notes ++ searchComplaint (operand ++ ": " ++ cause.words) }

/-- A command that failed on a path, which is named as it was written. -/
def commandFault (program path : String) (r : CommandResult) : Fault :=
  .command (program ++ " " ++ path) (some r.status) (Text.trim r.complaint)

def checksum (d : Disk) (path : String) : Except Fault Bytes :=
  match checkArguments [d.expand path] with
  | .error cause => .error (.io cause)
  | .ok () =>
    let r := d.runChecksum (d.expand path)
    if r.status = 0 then digestIn r.output else .error (commandFault "md5sum" path r)

def search (d : Disk) (path pattern : String) : Except Fault Bool :=
  match checkArguments [pattern, d.expand path] with
  | .error cause => .error (.io cause)
  | .ok () =>
    let r := d.runSearch (d.expand path) pattern
    match searchOutcome (some r.status) with
    | some found => .ok found
    | none => .error (commandFault "grep" path r)

end Disk

/-- What is open for writing is a location. It is made lasting when it is finished. -/
def localSink (loc : Location) : Sink Disk where
  write block := fun d =>
    match d.appendAt loc block with
    | .ok d' => (.ok (), d')
    | .error cause => (.error (.io cause), d)
  finish := Op.look fun d => (d.syncAt loc).mapError .io

def localTarget (name : String) : Target Disk where
  name := name
  openRead path := do
    let loc ← Op.look fun d => (d.openRead (d.expand path)).mapError (Fault.ofIo · path)
    return Op.look fun d => (d.contentAt loc).mapError .io
  openWrite path := fun d =>
    match d.openWrite (d.expand path) with
    | .ok (loc, d') => (.ok (localSink loc), d')
    | .error cause => (.error (.ofIo cause path), d)
  digest path := Op.look fun d => d.checksum path
  search path pattern := Op.look fun d => d.search path pattern
  close := pure ()

end Upkeep
