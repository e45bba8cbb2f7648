import Upkeep.Assertion.Basic
import Upkeep.Bytes.Hex
import Upkeep.Text.Blank

/-!
Which assertions are complete: each kind has the parameters it needs, and each action can be
carried out. The first violation is reported with the way that leads to it; the walk visits names
in order, the parameters of an assertion before its actions, and actions in order.
-/

set_option autoImplicit false

namespace Upkeep

/-- The length of an MD5 digest in hexadecimal digits. -/
def digestDigits : Nat := 32

/-- What an assertion lacks, possibly inside others. -/
inductive AssertionFlaw where
  | unnamed
  | noPath
  | noHash
  | malformedHash
  | noReference
  | noPattern
  | unsupportedKind (kind : String)
  | noCopyPaths
  | emptySet
  | unsupportedAction (kind : String)
  /-- In the assertion of this name. -/
  | inside (name : String) (flaw : AssertionFlaw)
  /-- In a set of assertions that is an action. -/
  | nested (flaw : AssertionFlaw)
  deriving DecidableEq, Repr

def AssertionFlaw.message : AssertionFlaw → String
  | .unnamed => "name must be specified for an assertion"
  | .noPath => "file_path must be specified for exists and !exists assertions"
  | .noHash => "hash/file_path must be specified for md5_match assertions"
  | .malformedHash => "hash must be a 32-digit hex MD5 digest for md5_match assertions"
  | .noReference => "base_path/file_path must be specified for file_match assertions"
  | .noPattern => "regex/file_path must be specified for regex_contents_match assertions"
  | .unsupportedKind kind => "unsupported assertion type/kind: " ++ kind
  | .noCopyPaths => "source_path/destination_path must be specified for COPY actions"
  | .emptySet => "at least one assertion must exist for ASSERT actions"
  | .unsupportedAction kind => "unsupported action type/kind: " ++ kind
  | .inside name flaw => "assertion " ++ Text.quoted name ++ ": " ++ flaw.message
  | .nested flaw => "nested ASSERT action: " ++ flaw.message

/-- Whether a text is a whole digest, blanks around it apart. -/
def isDigest (hash : String) : Bool :=
  let digits := Text.trim hash
  digits.utf8ByteSize = digestDigits && (Hex.decode digits).toOption.isSome

def Condition.validate (c : Condition) : Except AssertionFlaw Unit :=
  match c.kind with
  | .fileExists | .fileAbsent => if c.filePath = "" then .error .noPath else .ok ()
  | .hashEquals =>
    if c.hash = "" ∨ c.filePath = "" then .error .noHash
    else if isDigest c.hash then .ok () else .error .malformedHash
  | .matchesLocalFile =>
    if c.basePath = "" ∨ c.filePath = "" then .error .noReference else .ok ()
  | .regexMatches => if c.regex = "" ∨ c.filePath = "" then .error .noPattern else .ok ()
  | .unknown kind => .error (.unsupportedKind kind)

mutual

def Assertion.validate : Assertion → Except AssertionFlaw Unit
  | ⟨condition, _, actions⟩ =>
    match condition.validate with
    | .error flaw => .error flaw
    | .ok () => validateActions actions

def Action.validate : Action → Except AssertionFlaw Unit
  | .unset | .fail => .ok ()
  | .copyFile source destination =>
    if source = "" ∨ destination = "" then .error .noCopyPaths else .ok ()
  | .assert [] => .error .emptySet
  | .assert (a :: as) => (validateAll (a :: as)).mapError .nested
  | .unrecognised kind => .error (.unsupportedAction kind)

def validateActions : List Action → Except AssertionFlaw Unit
  | [] => .ok ()
  | a :: as =>
    match a.validate with
    | .error flaw => .error flaw
    | .ok () => validateActions as

def validateAll : List (String × Assertion) → Except AssertionFlaw Unit
  | [] => .ok ()
  | (name, a) :: as =>
    if Text.isBlankText name then .error .unnamed
    else match a.validate with
      | .error flaw => .error (.inside name flaw)
      | .ok () => validateAll as

end

def Group.validate (g : Group) : Except AssertionFlaw Unit := validateAll g.assertions

end Upkeep
