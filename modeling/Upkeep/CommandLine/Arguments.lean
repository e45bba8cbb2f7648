/-!
The arguments of the program: a command, the files that it is about, and a file that says which
machines to use. The option for the latter may stand before the command or after it, and after it
counts more.
-/

set_option autoImplicit false

namespace Upkeep.CommandLine

inductive Command where
  | run
  /-- The same as `run`, by another name. -/
  | assert
  | print
  deriving DecidableEq, Repr

namespace Command

def toString : Command → String
  | .run => "run"
  | .assert => "assert"
  | .print => "print"

def ofString? (word : String) : Option Command :=
  if word = "run" then some .run
  else if word = "assert" then some .assert
  else if word = "print" then some .print
  else none

end Command

structure Invocation where
  command : Command
  targets : Option String
  files : List String
  deriving DecidableEq, Repr

inductive Topic where
  | program
  | command (command : Command)
  /-- The word that asks for help. -/
  | help
  deriving DecidableEq, Repr

/-- Why there is nothing to do, or nothing that can be done. -/
inductive Refusal where
  | help (topic : Topic)
  | version
  /-- There are no arguments at all. -/
  | helpForNothing
  | missingCommand
  | unknownCommand
  | unknownArgument
  | missingFiles
  /-- An option has no value, or an empty one. -/
  | invalidValue
  | needlessValue
  /-- An option is given twice. -/
  | conflict
  deriving DecidableEq, Repr

/-- What has been read but not yet been looked at. -/
inductive Pending where
  | nothing
  /-- The option for the machines, with its value if that has been read. -/
  | option (value : Option String)
  /-- Files in a row. -/
  | files (paths : List String)
  deriving DecidableEq, Repr

/-- The arguments before the command, or those after it, as far as they have been read. -/
structure Reading where
  targets : Option String := none
  files : List String := []
  pending : Pending := .nothing
  /-- After `--` there are no more options. -/
  onlyFiles : Bool := false
  deriving DecidableEq, Repr

namespace Reading

def setTargets (r : Reading) (value : String) : Except Refusal Reading :=
  if r.targets.isSome then .error .conflict
  else if value = "" then .error .invalidValue
  else .ok { r with targets := some value }

def settle (r : Reading) : Except Refusal Reading :=
  let settled := { r with pending := .nothing }
  match r.pending with
  | .nothing => .ok settled
  | .option none => .error .invalidValue
  | .option (some value) => settled.setTargets value
  | .files paths =>
    if paths.contains "" then .error .invalidValue
    else .ok { settled with files := settled.files ++ paths }

def awaitsValue (r : Reading) : Bool := r.pending = .option none

def addFile (r : Reading) (path : String) : Except Refusal Reading :=
  match r.pending with
  | .files paths => .ok { r with pending := .files (paths ++ [path]) }
  | _ => (settle r).map fun r => { r with pending := .files [path] }

end Reading

inductive Shape where
  /-- Nothing but two hyphens. -/
  | separator
  | long (name : String) (value : Option String)
  /-- One hyphen, and a letter after it. -/
  | short (letter : Char)
  | plain
  deriving DecidableEq, Repr

def Shape.of (argument : String) : Shape :=
  match argument.toList with
  | ['-', '-'] => .separator
  | '-' :: '-' :: rest =>
    let name := rest.takeWhile (· ≠ '=')
    .long (String.ofList name)
      ((rest.drop name.length).head?.map fun _ => String.ofList (rest.drop (name.length + 1)))
  | '-' :: letter :: _ => .short letter
  | _ => .plain

/-- A flag that ends it all, for whatever is pending is looked at first. -/
def refuse (r : Reading) (value : Option String) (why : Refusal) : Except Refusal Reading :=
  if value.isSome then .error .needlessValue
  else match r.settle with
    | .ok _ => .error why
    | .error refusal => .error refusal

/-- An option with a long name. The version is only told before the command. -/
def readLong (topic : Topic) (r : Reading) (name : String) (value : Option String) :
    Except Refusal Reading :=
  if name = "targets" then
    match value with
    | some value => do (← r.settle).setTargets value
    | none => do return { ← r.settle with pending := .option none }
  else if name = "help" then refuse r value (.help topic)
  else if name = "version" && topic = .program then refuse r value .version
  else .error .unknownArgument

def readShort (topic : Topic) (r : Reading) (letter : Char) : Except Refusal Reading :=
  if letter = 'h' then refuse r none (.help topic)
  else if letter = 'V' && topic = .program then refuse r none .version
  else .error .unknownArgument

/-- Reads an argument; one that is no option is left to `plain`. -/
def readArgument (topic : Topic) (plain : Reading → String → Except Refusal Reading)
    (r : Reading) (argument : String) : Except Refusal Reading :=
  if r.onlyFiles then plain r argument
  else
    match Shape.of argument with
    | .separator => .ok { r with onlyFiles := true }
    | .long name value => readLong topic r name value
    | .short letter => readShort topic r letter
    | .plain =>
      if r.awaitsValue then .ok { r with pending := .option (some argument) }
      else plain r argument

def helpWord : String := "help"

def Topic.ofString? (word : String) : Option Topic :=
  if word = helpWord then some .help else (Command.ofString? word).map .command

/-- What else stands before the command is no command. -/
def refuseWord (r : Reading) (word : String) : Except Refusal Reading :=
  .error (if r.onlyFiles && (Topic.ofString? word).isSome then .unknownArgument else .unknownCommand)

/-- Help on a command, which has no commands of its own. -/
def helpOn : List String → Refusal
  | [] => .help .program
  | [word] => ((Topic.ofString? word).map Refusal.help).getD .unknownCommand
  | _ => .unknownCommand

def readFiles (command : Command) (r : Reading) : List String → Except Refusal Reading
  | [] => r.settle
  | argument :: rest =>
    match readArgument (.command command) Reading.addFile r argument with
    | .ok r => readFiles command r rest
    | .error refusal => .error refusal

/-- What the arguments before and after a command amount to. -/
def combine (command : Command) (before after : Reading) : Except Refusal Invocation :=
  if after.files.isEmpty then .error .missingFiles
  else
    match before.settle with
    | .ok before => .ok ⟨command, after.targets.orElse fun _ => before.targets, after.files⟩
    | .error refusal => .error refusal

def withoutCommand (r : Reading) : Refusal :=
  match r.settle with
  | .ok r => if r.targets.isSome then .missingCommand else .helpForNothing
  | .error refusal => refusal

/-- Reads the arguments up to the command, and then those after it. -/
def readFrom (r : Reading) : List String → Except Refusal Invocation
  | [] => .error (withoutCommand r)
  | argument :: rest =>
    if !r.onlyFiles && !r.awaitsValue && argument = helpWord then .error (helpOn rest)
    else
      match if r.onlyFiles || r.awaitsValue then none else Command.ofString? argument with
      | some command =>
        match readFiles command {} rest with
        | .ok after => combine command r after
        | .error refusal => .error refusal
      | none =>
        match readArgument .program refuseWord r argument with
        | .ok r => readFrom r rest
        | .error refusal => .error refusal

def parse (arguments : List String) : Except Refusal Invocation := readFrom {} arguments

end Upkeep.CommandLine
