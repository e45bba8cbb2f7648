import Upkeep.Fault

/-!
What a run reports as it goes: each machine before and after it is connected, and each assertion
before it is evaluated and with its outcome.
-/

set_option autoImplicit false

namespace Upkeep

inductive Outcome where
  /-- The condition holds; nothing was done. -/
  | noop
  /-- The condition did not hold, and all actions have been taken. -/
  | applied
  /-- A FAIL action has been reached. -/
  | failed
  /-- Whether the condition holds could not be found out. -/
  | error
  /-- An action could not be taken. -/
  | applyError
  deriving DecidableEq, Repr

namespace Outcome

def label : Outcome → String
  | .noop => "OK"
  | .applied => "APPLIED"
  | .failed => "FAILED"
  | .error => "ERR"
  | .applyError => "APPLY_ERR"

/-- Of a condition alone: one that does not hold is to be remedied. -/
def ofCheck (holds : Bool) : Outcome := if holds then .noop else .applied

def ofFault (f : Fault) : Outcome := if f.isAssertionFailure then .failed else .applyError

end Outcome

/-- An outcome and the fault that led to it, if any. -/
structure Evaluation where
  outcome : Outcome
  fault : Option Fault := none
  deriving DecidableEq, Repr

def Evaluation.result (e : Evaluation) : Except Fault Outcome :=
  match e.fault with
  | some f => .error f
  | none => .ok e.outcome

inductive Event where
  /-- Without a fault and not connected, the machine is about to be connected. -/
  | machine (name : String) (connected : Bool) (fault : Option Fault)
  /-- Without an outcome, the assertion is about to be evaluated. -/
  | assertion (group name : String) (outcome : Option Outcome) (fault : Option Fault)
  deriving DecidableEq, Repr

namespace Event

def started (group name : String) : Event := .assertion group name none none

def ended (group name : String) (e : Evaluation) : Event :=
  .assertion group name (some e.outcome) e.fault

end Event

end Upkeep
