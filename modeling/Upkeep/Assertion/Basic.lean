import Upkeep.Named

/-!
Assertions about files on a machine: a condition that must hold, and the actions to take when it
does not. An action may in turn be a set of assertions. A group is a named set of assertions,
usually one file.
-/

set_option autoImplicit false

namespace Upkeep

inductive AssertionKind where
  /-- The file can be read. -/
  | fileExists
  /-- The file does not exist. -/
  | fileAbsent
  /-- The MD5 digest of the file is the given one. -/
  | hashEquals
  /-- The file has the digest of a local reference file. -/
  | matchesLocalFile
  /-- Some line of the file matches a pattern. -/
  | regexMatches
  /-- Any other kind, kept as it was written. -/
  | unknown (kind : String)
  deriving DecidableEq, Repr

namespace AssertionKind

def toString : AssertionKind → String
  | .fileExists => "exists"
  | .fileAbsent => "!exists"
  | .hashEquals => "md5_match"
  | .matchesLocalFile => "file_match"
  | .regexMatches => "regex_contents_match"
  | .unknown kind => kind

def ofString (kind : String) : AssertionKind :=
  if kind = "exists" then .fileExists
  else if kind = "!exists" then .fileAbsent
  else if kind = "md5_match" then .hashEquals
  else if kind = "file_match" then .matchesLocalFile
  else if kind = "regex_contents_match" then .regexMatches
  else .unknown kind

end AssertionKind

/-- What must hold of one file. Every kind has a path; of the other parameters it uses its own. -/
structure Condition where
  kind : AssertionKind
  filePath : String := ""
  /-- An MD5 digest in hexadecimal digits. -/
  hash : String := ""
  /-- A local reference file. -/
  basePath : String := ""
  /-- A pattern for lines. -/
  regex : String := ""
  deriving DecidableEq, Repr

mutual

structure Assertion where
  condition : Condition
  /-- Lower runs first. -/
  order : Option Int64 := none
  /-- Taken in turn when the condition does not hold. -/
  actions : List Action := []

inductive Action where
  /-- No action named. -/
  | unset
  /-- Gives the whole run up. -/
  | fail
  /-- Copies a local file onto the machine. -/
  | copyFile (source : String) (destination : String)
  /-- Evaluates further assertions. -/
  | assert (assertions : List (String × Assertion))
  /-- Any other action, kept as it was written. -/
  | unrecognised (kind : String)

end

deriving instance BEq, Repr for Assertion, Action

def defaultOrder : Int64 := 1000

def Assertion.effectiveOrder (a : Assertion) : Int64 := a.order.getD defaultOrder

def Action.kind : Action → String
  | .unset => ""
  | .fail => "FAIL"
  | .copyFile _ _ => "COPY"
  | .assert _ => "ASSERT"
  | .unrecognised kind => kind

structure Group where
  name : String
  assertions : Named Assertion := []
  deriving BEq, Repr

/-- The group with one assertion more, in place of another of its name. -/
def Group.add (g : Group) (name : String) (a : Assertion) : Group :=
  { g with assertions := g.assertions.insert name a }

end Upkeep
