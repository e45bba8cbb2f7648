import Upkeep.CommandLine.Execution

/-!
The local paths that an invocation has to do with: those of the files that it names, and those that
stand in these files.
-/

set_option autoImplicit false

namespace Upkeep

def Condition.paths (c : Condition) : List String := [c.filePath, c.basePath]

mutual

def Assertion.paths : Assertion → List String
  | ⟨condition, _, actions⟩ => condition.paths ++ actionPaths actions

def Action.paths : Action → List String
  | .copyFile source destination => [source, destination]
  | .assert assertions => assertionPaths assertions
  | _ => []

def actionPaths : List Action → List String
  | [] => []
  | a :: as => a.paths ++ actionPaths as

def assertionPaths : List (String × Assertion) → List String
  | [] => []
  | (_, a) :: as => a.paths ++ assertionPaths as

end

def Group.paths (g : Group) : List String := assertionPaths g.assertions

def Machine.paths (m : Machine) : List String := defaultKeyPath :: m.auth.map Credential.key

def Fleet.paths (f : Fleet) : List String := f.machines.flatMap fun entry => entry.2.paths

def Plan.paths (plan : Plan) : List String := plan.fleet.paths ++ plan.groups.flatMap Group.paths

namespace CommandLine

def namedFiles (arguments : List String) : List String :=
  match parse arguments with
  | .ok i => i.targets.toList ++ i.files
  | .error _ => []

/-- The files that are named in the files that the arguments name. -/
def filesWithin (arguments : List String) (d : Disk) : List String :=
  match parse arguments with
  | .ok i =>
    match i.load d with
    | .ok plan => plan.paths.map d.expand
    | .error _ => []
  | .error _ => []

end CommandLine

end Upkeep
