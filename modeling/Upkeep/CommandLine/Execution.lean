import Upkeep.CommandLine.Arguments
import Upkeep.CommandLine.Help
import Upkeep.Console.Display
import Upkeep.Json.Printer
import Upkeep.Run.Backend
import Upkeep.Spec.Load

/-!
What the program does for an invocation: it loads all the files first, the machines before the
assertions, and only then applies or prints what they say.
-/

set_option autoImplicit false

namespace Upkeep.CommandLine

inductive Failure where
  | targets (path : String) (e : SpecError)
  | assertions (path : String) (e : SpecError)
  | fault (f : Fault)
  deriving DecidableEq, Repr

/-- The words of all the decoders. -/
structure Wording where
  targets : SpecWords
  assertions : SpecWords
  keys : Key.Words

def Failure.message (wording : Wording) : Failure → String
  | .targets path e =>
    "Could not load targets " ++ path ++ ": " ++ e.message wording.targets
  | .assertions path e =>
    "Could not load assertions " ++ path ++ ": " ++ e.message wording.assertions
  | .fault f => f.fullMessage

/-! ### Loading -/

def loadFleet (d : Disk) : Option String → Except Failure Fleet
  | none => .ok .justHere
  | some path => (Fleet.load d path).mapError (.targets path)

def loadGroups (d : Disk) : List String → Except Failure (List Group)
  | [] => .ok []
  | path :: paths =>
    match Group.load d path with
    | .ok g => (loadGroups d paths).map (g :: ·)
    | .error e => .error (.assertions path e)

def Invocation.load (i : Invocation) (d : Disk) : Except Failure Plan := do
  let fleet ← loadFleet d i.targets
  let groups ← loadGroups d i.files
  return ⟨fleet, groups⟩

def loadNote (what path : String) : Note :=
  ⟨.info, "Loading " ++ what ++ " from " ++ Text.quotedPath path⟩

/-- The notes on files of assertions, up to the first that cannot be loaded. -/
def groupNotes (d : Disk) : List String → List Note
  | [] => []
  | path :: paths =>
    loadNote "assertions" path ::
      match Group.load d path with
      | .ok _ => groupNotes d paths
      | .error _ => []

def Invocation.loadNotes (i : Invocation) (d : Disk) : List Note :=
  i.targets.toList.map (loadNote "targets") ++
    match loadFleet d i.targets with
    | .ok _ => groupNotes d i.files
    | .error _ => []

/-! ### The end -/

structure Finish where
  exit : Nat
  output : String := ""
  complaint : String := ""
  disk : Disk
  deriving DecidableEq, Repr

/-- The notes of a log that shows those from a level on, or none. -/
def logText (threshold : Option Level) (notes : List Note) : String :=
  String.join ((notes.filter fun n =>
    threshold.any fun level => level.severity ≤ n.level.severity).map fun n => n.line ++ "\n")

def failureLine : String := Console.Colour.red.paint "Error" ++ ": assertions failed\n"

/-- Ends with a failure. A verdict of FAIL is an answer, and any other failure is a complaint. -/
def fail (wording : Wording) (threshold : Option Level) (output : String) (notes : List Note)
    (d : Disk) (failure : Failure) : Finish :=
  if failure = .fault .assertionsFailed then
    { exit := 1, output := output ++ failureLine, complaint := logText threshold notes, disk := d }
  else
    { exit := 1
      output := output
      complaint := logText threshold (notes ++ [⟨.error, failure.message wording⟩]) ++
        "Error: " ++ failure.message wording ++ "\n"
      disk := d }

def Plan.toDocument (plan : Plan) : Document :=
  .table [("targets", plan.fleet.toDocument),
    ("assertions", .list (plan.groups.map Group.toDocument))]

/-- The text of what has been loaded, every name in its place in the alphabet. -/
def printed (plan : Plan) : String := Json.pretty (Json.sortNames (Plan.toDocument plan)) ++ "\n"

def apply (wording : Wording) (call : Caller) (threshold : Option Level) (notes : List Note)
    (plan : Plan) (d : Disk) : Finish :=
  match plan.run id (backend wording.keys call) d with
  | (.ok (), p) =>
    { exit := 0
      output := Console.render p.events
      complaint := logText threshold (notes ++ p.notes)
      disk := p.world }
  | (.error f, p) =>
    fail wording threshold (Console.render p.events) (notes ++ p.notes) p.world (.fault f)

def Invocation.execute (wording : Wording) (call : Caller) (threshold : Option Level)
    (i : Invocation) (d : Disk) : Finish :=
  match i.load d with
  | .error failure => fail wording threshold "" (i.loadNotes d) d failure
  | .ok plan =>
    match i.command with
    | .print =>
      { exit := 0, output := printed plan, complaint := logText threshold (i.loadNotes d), disk := d }
    | .run | .assert => apply wording call threshold (i.loadNotes d) plan d

/-! ### Without an invocation -/

def Refusal.message : Refusal → String
  | .help _ | .version | .helpForNothing => ""
  | .missingCommand => "a command is required"
  | .unknownCommand => "there is no such command"
  | .unknownArgument => "there is no such argument"
  | .missingFiles => "files of assertions are required"
  | .invalidValue => "a value is required"
  | .needlessValue => "a value is not possible here"
  | .conflict => "an option is given more than once"

def Refusal.finish (d : Disk) : Refusal → Finish
  | .help topic => { exit := 0, output := topic.text, disk := d }
  | .version => { exit := 0, output := versionText, disk := d }
  | .helpForNothing => { exit := 2, complaint := Topic.program.text, disk := d }
  | refusal =>
    { exit := 2
      complaint := "error: " ++ refusal.message ++ "\n\n" ++ Topic.program.text
      disk := d }

def start (wording : Wording) (call : Caller) (threshold : Option Level)
    (arguments : List String) (d : Disk) : Finish :=
  match parse arguments with
  | .ok i => i.execute wording call threshold d
  | .error refusal => refusal.finish d

end Upkeep.CommandLine
