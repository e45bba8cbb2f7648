import Upkeep.Fault
import Upkeep.Text.Blank

/-!
Where a machine can be reached: a host, and a port where it is not the usual one.
-/

set_option autoImplicit false

namespace Upkeep.Remote

def defaultPort : UInt16 := 22

structure Destination where
  host : String
  port : UInt16
  deriving DecidableEq, Repr

namespace Destination

inductive Flaw where
  | badPort
  | missingHost
  deriving DecidableEq, Repr

def Flaw.message : Flaw → String
  | .badPort => "bad port"
  | .missingHost => "missing host"

/-- The number that decimal digits stand for, if there are digits and nothing else. -/
def number? (digits : List Char) : Option Nat :=
  if !digits.isEmpty && digits.all Char.isDigit then
    some (digits.foldl (fun n c => 10 * n + (c.toNat - 0x30)) 0)
  else none

/-- A port may have a plus sign, and is less than 65536. -/
def port? (cs : List Char) : Option UInt16 := do
  let digits := match cs with
    | '+' :: rest => rest
    | _ => cs
  let n ← number? digits
  if n < 65536 then some (UInt16.ofNat n) else none

/-- Reads what stands before and after the last colon, blanks around the whole apart. -/
def read (s : String) : Except Flaw Destination :=
  let cs := Text.trimChars s.toList
  match Text.splitLast? ':' cs with
  | some (host, port) =>
    match port? port with
    | none => .error .badPort
    | some port => if host.isEmpty then .error .missingHost else .ok ⟨String.ofList host, port⟩
  | none => if cs.isEmpty then .error .missingHost else .ok ⟨String.ofList cs, defaultPort⟩

def parse (s : String) : Except Fault Destination :=
  (read s).mapError fun flaw =>
    .io (.custom ("invalid destination " ++ Text.quoted s ++ ": " ++ flaw.message))

end Destination

end Upkeep.Remote
