/-!
Names and colours on the console.
-/

set_option autoImplicit false

namespace Upkeep.Console

/-- One token per name: spaces become underscores. -/
def plainName (name : String) : String :=
  String.ofList (name.toList.map fun c => if c = ' ' then '_' else c)

/-- How deep a group is nested in assertions of others. -/
def nesting (group : String) : Nat := group.toList.count '/'

/-- The start of a line on an assertion, indented by two for every level. -/
def label (group name : String) : String :=
  String.ofList (List.replicate (2 + nesting group * 2) ' ') ++ plainName group ++ "." ++
    plainName name ++ ": "

inductive Colour where
  | red
  | green
  | yellow
  | cyan
  deriving DecidableEq, Repr

def Colour.index : Colour → Nat
  | .red => 9
  | .green => 10
  | .yellow => 11
  | .cyan => 14

/-- A text in a colour, after which the colour is as before. -/
def Colour.paint (colour : Colour) (s : String) : String :=
  "\x1b[38;5;" ++ toString colour.index ++ "m" ++ s ++ "\x1b[39m"

end Upkeep.Console
