import Upkeep.Assertion.Basic
import Upkeep.Bytes.MD5
import Upkeep.Files.Access
import Upkeep.Target.Basic

/-!
Whether the condition of an assertion holds on a target. Nothing is written to find that out. The
local files, in which reference files lie, are a part of the world.
-/

set_option autoImplicit false

namespace Upkeep

variable {σ : Type}

/-- Whether a file can be opened. That it does not exist is an answer, every other fault is not. -/
def Target.exists (t : Target σ) (path : String) : Op σ Bool := fun s =>
  match t.openRead path s with
  | (.ok _, s') => (.ok true, s')
  | (.error f, s') => (if f.isNotFound then .ok false else .error f, s')

/-- The digest of a local file, whatever the target is. -/
def Disk.digest (d : Disk) (path : String) : Except Fault Bytes :=
  match d.openRead (d.expand path) with
  | .error cause => .error (.ofIo cause path)
  | .ok loc =>
    match d.contentAt loc with
    | .error cause => .error (.io cause)
    | .ok content => .ok (MD5.digest content)

/-- Whether digits, blanks around them apart, are those of a digest, in either case. -/
def isDigestOf (digits : String) (digest : Bytes) : Bool :=
  Hex.encodeChars digest == (Text.trimChars digits.toList).map Char.toLower

namespace Condition

def check (disk : σ → Disk) (t : Target σ) (c : Condition) : Op σ Bool :=
  match c.kind with
  | .fileExists => t.exists c.filePath
  | .fileAbsent => return !(← t.exists c.filePath)
  | .hashEquals => return isDigestOf c.hash (← t.digest c.filePath)
  | .matchesLocalFile => do
    if ← t.exists c.filePath then
      let expected ← Op.look fun s => (disk s).digest c.basePath
      return (← t.digest c.filePath) == expected
    else return false
  | .regexMatches => t.search c.filePath c.regex
  | .unknown kind => Op.fail (.unknownAssertionKind kind)

end Condition

end Upkeep
