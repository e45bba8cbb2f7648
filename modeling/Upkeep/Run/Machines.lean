import Upkeep.Machine.Basic
import Upkeep.Run.Evaluate

/-!
Applying groups of assertions to machines, one machine at a time: connect, evaluate every group,
release. The first fault ends the run, once the machine at hand has been released.
-/

set_option autoImplicit false

namespace Upkeep

variable {σ : Type}

structure Connection (σ : Type) where
  target : Except Fault (Target σ)
  world : σ
  notes : List Note := []

/-- Connects to a machine that is known under a name. -/
abbrev Connector (σ : Type) := (name : String) → Machine → σ → Connection σ

def Connector.on {τ : Type} (part : τ → σ) (replace : σ → τ → τ) (connector : Connector σ) :
    Connector τ := fun name m t =>
  let connection := connector name m (part t)
  { target := connection.target.map (Target.on part replace)
    world := replace connection.world t
    notes := connection.notes }

structure Plan where
  fleet : Fleet
  groups : List Group

def evaluateGroups (disk : σ → Disk) (t : Target σ) : List Group → Step σ Unit
  | [] => pure ()
  | g :: gs => do
    evaluateAll disk t g.name g.assertions
    evaluateGroups disk t gs

def faultOf {α : Type} : Except Fault α → Option Fault
  | .error f => some f
  | .ok _ => none

def connectTo (connector : Connector σ) (name : String) (m : Machine) : Step σ (Target σ) :=
  fun p =>
    let p := p.report (.machine name false none)
    let connection := connector name m p.world
    (connection.target,
      { p with
        world := connection.world
        notes := p.notes ++ connection.notes
        events := p.events ++
          [.machine name connection.target.toOption.isSome (faultOf connection.target)] })

/-- Evaluates the groups on a target and releases it. Of two faults the first counts. -/
def applyTo (disk : σ → Disk) (groups : List Group) (name : String) (t : Target σ) : Step σ Unit :=
  fun p =>
    match evaluateGroups disk t groups p with
    | (evaluated, p') =>
      match evaluated, Step.ofOp t.close p' with
      | .error f, (.error close, p'') =>
        (.error f, p''.note .warn (name ++ ": close after error failed: " ++ close.message))
      | .error f, (.ok (), p'') => (.error f, p'')
      | .ok (), (.error close, p'') => (.error close, p'')
      | .ok (), (.ok (), p'') => (.ok (), p''.note .info (name ++ ": all assertions hold"))

/-- Connects to a machine and applies the groups there. -/
def visit (disk : σ → Disk) (connector : Connector σ) (groups : List Group)
    (name : String) (m : Machine) : Step σ Unit := do
  let t ← connectTo connector name m
  applyTo disk groups name t

def visitAll (disk : σ → Disk) (connector : Connector σ) (groups : List Group) :
    List (String × Machine) → Step σ Unit
  | [] => pure ()
  | (name, m) :: ms => do
    visit disk connector groups name m
    visitAll disk connector groups ms

def Plan.startMessage (plan : Plan) : String :=
  "Running " ++ toString plan.groups.length ++ " assertion group(s) against " ++
    toString plan.fleet.machines.length ++ " machine(s) of " ++ Text.quoted plan.fleet.name

/-- Applies all groups to all machines, in the order of their names. -/
def Plan.run (plan : Plan) (disk : σ → Disk) (connector : Connector σ) (s : σ) :
    Except Fault Unit × Progress σ :=
  let p : Progress σ := { world := s }
  visitAll disk connector plan.groups plan.fleet.machines (p.note .info plan.startMessage)

end Upkeep
