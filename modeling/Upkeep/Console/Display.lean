import Upkeep.Console.Label
import Upkeep.Run.Event

/-!
Events on the console, a line for each assertion. The line is begun when the assertion starts and
completed with its outcome. If anything else is to be shown before that, the open line is closed as
running, and the outcome gets a line of its own.
-/

set_option autoImplicit false

namespace Upkeep.Console

/-- The group and the name of the assertion whose line is open. -/
abbrev OpenLine := Option (String × String)

inductive Stroke where
  | write (s : String)
  /-- From here on, this line is open. -/
  | become (line : OpenLine)
  deriving DecidableEq, Repr

/-- Closes a line that is open. It counts as closed before that is written. -/
def closing (line : OpenLine) : List Stroke :=
  if line.isSome then [.become none, .write (Colour.yellow.paint "RUNNING" ++ "\n")] else []

def outcomeColour : Outcome → Colour
  | .noop => .green
  | .applied => .yellow
  | .failed | .error | .applyError => .red

/-- Only where something could not be done is the fault spelled out. -/
def shownFault (outcome : Outcome) (fault : Option Fault) : List Stroke :=
  match outcome, fault with
  | .error, some f | .applyError, some f => [.write (" (" ++ f.message ++ ")")]
  | _, _ => []

def strokes (line : OpenLine) : Event → List Stroke
  | .machine _ _ (some f) =>
    closing line ++ [.write (Colour.yellow.paint "ERROR" ++ " (" ++ f.message ++ ")\n")]
  | .machine _ true none => closing line ++ [.write (Colour.green.paint "CONNECTED" ++ "\n")]
  | .machine name false none =>
    closing line ++ [.write ("Connecting to " ++ Colour.cyan.paint (plainName name) ++ ": ")]
  | .assertion group name none _ =>
    closing line ++ [.write (label group name), .become (some (group, name))]
  | .assertion group name (some outcome) fault =>
    (if line = some (group, name) then [.become none]
      else closing line ++ [.write (label group name)]) ++
    [.write ((outcomeColour outcome).paint outcome.label)] ++ shownFault outcome fault ++
    [.write "\n"]

/-- What is written, and which line is open then. -/
def perform (line : OpenLine) : List Stroke → String × OpenLine
  | [] => ("", line)
  | .write s :: rest => (s ++ (perform line rest).1, (perform line rest).2)
  | .become line' :: rest => perform line' rest

/-- Which line is open when nothing can be written: the first attempt ends it. -/
def performBlocked (line : OpenLine) : List Stroke → OpenLine
  | [] => line
  | .write _ :: _ => line
  | .become line' :: rest => performBlocked line' rest

/-- Shows an event; where the console `works` not, nothing gets there. -/
def display (works : Bool) (line : OpenLine) (e : Event) : String × OpenLine :=
  if works then perform line (strokes line e) else ("", performBlocked line (strokes line e))

/-- What is written for each of several events. -/
def displayEach (line : OpenLine) : List Event → List String
  | [] => []
  | e :: es => (display true line e).1 :: displayEach (display true line e).2 es

def render (events : List Event) : String := String.join (displayEach none events)

end Upkeep.Console
