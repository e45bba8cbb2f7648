import Upkeep.Shell.Quoting
import Upkeep.Target.Answer

/-!
What is done on a remote machine is done by commands. Each has a command line, and its exit status
and output make up the answer.
-/

set_option autoImplicit false

namespace Upkeep.Remote

inductive Command where
  | read (path : String)
  | write (path : String)
  | digest (path : String)
  | search (path pattern : String)
  deriving DecidableEq, Repr

def Command.line : Command → String
  | .read path => "cat -- " ++ Shell.quote path
  | .write path => "cat - > " ++ Shell.quote path
  | .digest path => "md5sum -- " ++ Shell.quote path
  | .search path pattern =>
    "grep -q -E -e " ++ Shell.quote pattern ++ " -- " ++ Shell.quote path

structure Reply where
  status : Int
  output : Bytes := []
  complaint : String := ""
  deriving DecidableEq, Repr

def Reply.fault (r : Reply) (c : Command) : Fault :=
  .remoteCommand c.line r.status (Text.trim r.complaint)

/-- Status 1 is taken to mean that there is no such file. -/
def Reply.content (r : Reply) (path : String) : Except Fault Bytes :=
  if r.status = 0 then .ok r.output
  else if r.status = 1 then .error (.notFound path)
  else .error (r.fault (.read path))

def Reply.digest (r : Reply) (path : String) : Except Fault Bytes :=
  if r.status = 0 then digestIn r.output else .error (r.fault (.digest path))

def Reply.found (r : Reply) (path pattern : String) : Except Fault Bool :=
  match searchOutcome (some r.status) with
  | some found => .ok found
  | none => .error (r.fault (.search path pattern))

/-- A file has been written only if the command ends well. -/
def Reply.written (r : Reply) (path : String) : Except Fault Unit :=
  if r.status = 0 then .ok () else .error (r.fault (.write path))

end Upkeep.Remote
