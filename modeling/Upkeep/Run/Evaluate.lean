import Upkeep.Assertion.Order
import Upkeep.Run.Check
import Upkeep.Run.Progress

/-!
Evaluating assertions on a target: check the condition, and where it does not hold take the actions
in turn, up to the first fault. A set of assertions is evaluated in its order and stops likewise.
Actions may nest further sets, up to a fixed depth.
-/

set_option autoImplicit false

namespace Upkeep

variable {σ : Type}

def maxNesting : Nat := 16

/-- Copies a local file onto the target. The source is opened before the destination and read after
it, so a source that is missing leaves the destination alone. -/
def deliver (disk : σ → Disk) (t : Target σ) (source destination : String) : Op σ Nat := do
  let loc ← Op.look fun s =>
    ((disk s).openRead ((disk s).expand source)).mapError .io
  let sink ← t.openWrite destination
  let content ← Op.look fun s => ((disk s).contentAt loc).mapError .io
  sink.sendAll content
  sink.finish
  return content.length

def copiedMessage (name source destination : String) (size : Nat) : String :=
  name ++ ": copied " ++ source ++ " (" ++ toString size ++ " bytes) to " ++ destination

/-- Nested sets are evaluated by `nested`, under the name of the assertion that they belong to. -/
def Action.takeWith (nested : String → Named Assertion → Step σ Unit) (disk : σ → Disk)
    (t : Target σ) (parent : String) : Action → Step σ Unit
  | .unset => pure ()
  | .fail => Op.fail .assertionsFailed
  | .copyFile source destination => do
    let size ← Step.ofOp (deliver disk t source destination)
    Step.note .info (copiedMessage t.name source destination size)
  | .assert assertions => nested parent assertions
  | .unrecognised kind => Op.fail (.unrecognisedActionKind kind)

def takeAll (take : Action → Step σ Unit) : List Action → Step σ Unit
  | [] => pure ()
  | a :: as => do
    take a
    takeAll take as

/-- The name under which the sets in an assertion are reported. -/
def nestedName (group name : String) : String := group ++ "/" ++ name

def Assertion.evaluateWith (nested : String → Named Assertion → Step σ Unit) (disk : σ → Disk)
    (t : Target σ) (group name : String) (a : Assertion) (p : Progress σ) :
    Evaluation × Progress σ :=
  match Step.ofOp (a.condition.check disk t) p with
  | (.error f, p') => (⟨.error, some f⟩, p')
  | (.ok true, p') => (⟨.noop, none⟩, p')
  | (.ok false, p') =>
    match takeAll (Action.takeWith nested disk t (nestedName group name)) a.actions p' with
    | (.ok (), p'') => (⟨.applied, none⟩, p'')
    | (.error f, p'') => (⟨.ofFault f, some f⟩, p'')

/-- Evaluates one after another, reporting each before and after, up to the first fault. -/
def evaluateAllWith (nested : String → Named Assertion → Step σ Unit) (disk : σ → Disk)
    (t : Target σ) (group : String) : List (String × Assertion) → Step σ Unit
  | [] => pure ()
  | (name, a) :: as => fun p =>
    match a.evaluateWith nested disk t group name (p.report (.started group name)) with
    | (e, p') =>
      match e.fault with
      | some f => (.error f, p'.report (.ended group name e))
      | none => evaluateAllWith nested disk t group as (p'.report (.ended group name e))

/-- Evaluates a nested set one level deeper, unless the run is as deep as it may be. It never gets to
use up `maxNesting` levels before it is. -/
def evaluateNested (disk : σ → Disk) (t : Target σ) :
    (levels : Nat) → String → Named Assertion → Step σ Unit
  | 0, _, _ => Op.fail (.nestingTooDeep maxNesting)
  | levels + 1, parent, assertions => fun p =>
    if maxNesting ≤ p.depth then (.error (.nestingTooDeep maxNesting), p)
    else
      Step.deeper
        (evaluateAllWith (evaluateNested disk t levels) disk t parent (sorted assertions)) p

def Action.take (disk : σ → Disk) (t : Target σ) (parent : String) (a : Action) : Step σ Unit :=
  a.takeWith (evaluateNested disk t maxNesting) disk t parent

def Assertion.evaluate (disk : σ → Disk) (t : Target σ) (group name : String) (a : Assertion) :
    Progress σ → Evaluation × Progress σ :=
  a.evaluateWith (evaluateNested disk t maxNesting) disk t group name

/-- Evaluates a set of assertions in its order. -/
def evaluateAll (disk : σ → Disk) (t : Target σ) (group : String) (assertions : Named Assertion) :
    Step σ Unit :=
  evaluateAllWith (evaluateNested disk t maxNesting) disk t group (sorted assertions)

end Upkeep
