import Upkeep.Bytes.MD5
import Upkeep.Named
import Upkeep.Target.Basic
import Upkeep.Text.Occurrence
import Upkeep.Text.Blank

/-!
A machine held in memory. What is written to a file is kept aside, and takes effect when the file is
finished, all at once. Any operation can be made to fail on given paths.
-/

set_option autoImplicit false

namespace Upkeep

/-- How patterns are read: what a pattern finds in a content, or why it is none. -/
def Matcher : Type := (pattern : String) → Except IoFault (Bytes → Bool)

namespace Matcher

/-- Looks at one line of a text after another. -/
def byLine (read : String → Except IoFault (List Char → Bool)) : Matcher := fun pattern =>
  (read pattern).map fun isMatch content => (Text.lines (Bytes.lossyText content)).any isMatch

/-- For patterns that stand for themselves. -/
def literal : Matcher := byLine fun pattern => .ok (Text.occursIn pattern.toList)

end Matcher

structure Memory where
  files : Named Bytes := []
  /-- Cannot be read, digested or searched. -/
  broken : List String := []
  /-- Cannot be opened for writing. -/
  readOnly : List String := []
  /-- Take no block. -/
  full : List String := []
  /-- Cannot be finished. -/
  unfinishable : List String := []
  badPatterns : List String := []
  /-- Digests given in place of the true ones. -/
  digests : Named Bytes := []
  /-- Whether the machine cannot be released properly. -/
  failsToClose : Bool := false
  /-- What has been written to each of the sinks that have been opened. -/
  buffers : List Bytes := []
  /-- The paths that have been written, in order. -/
  writes : List String := []
  closes : Nat := 0
  deriving DecidableEq, Repr

namespace Memory

def denied (path : String) : Fault := .io (.custom (path ++ ": permission denied"))

def content (m : Memory) (path : String) : Except Fault Bytes :=
  if m.broken.contains path then .error (denied path)
  else match m.files.lookup path with
    | some content => .ok content
    | none => .error (.notFound path)

def digest (m : Memory) (path : String) : Except Fault Bytes :=
  match m.content path with
  | .ok content => .ok ((m.digests.lookup path).getD (MD5.digest content))
  | .error f => .error f

/-- The pattern is read before the file. -/
def search (matcher : Matcher) (m : Memory) (path pattern : String) : Except Fault Bool :=
  if m.badPatterns.contains pattern then
    .error (.command ("grep " ++ path) (some 2) "bad pattern")
  else match matcher pattern with
    | .error cause => .error (.io cause)
    | .ok finds => (m.content path).map finds

/-- The machine after a file has been written as a whole. -/
def store (m : Memory) (path : String) (content : Bytes) : Memory :=
  { m with files := m.files.insert path content, writes := m.writes ++ [path] }

/-- A sink with the buffer of this number. -/
def sink (path : String) (number : Nat) : Sink Memory where
  write block := fun m =>
    if m.full.contains path then (.error (.io (.custom "disk full")), m)
    else (.ok (), { m with buffers := m.buffers.modify number (· ++ block) })
  finish := fun m =>
    if m.unfinishable.contains path then
      (.error (.remoteCommand ("cat - > " ++ path) 1 "finish failed"), m)
    else (.ok (), m.store path (m.buffers[number]?.getD []))

def target (matcher : Matcher) (name : String) : Target Memory where
  name := name
  openRead path := do
    let content ← Op.look fun m => m.content path
    return pure content
  openWrite path := fun m =>
    if m.readOnly.contains path then (.error (denied path), m)
    else (.ok (sink path m.buffers.length), { m with buffers := m.buffers ++ [[]] })
  digest path := Op.look fun m => m.digest path
  search path pattern := Op.look fun m => m.search matcher path pattern
  close := fun m =>
    let closed := { m with closes := m.closes + 1 }
    if m.failsToClose then (.error (.io (.custom "close failed")), closed) else (.ok (), closed)

end Memory

end Upkeep
