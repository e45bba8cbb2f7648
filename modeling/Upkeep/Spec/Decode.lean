import Upkeep.Assertion.Encoding
import Upkeep.Assertion.Normal
import Upkeep.Machine.Encoding
import Upkeep.Spec.Error

/-!
Specifications from texts. Decoding alone takes what a text says; parsing goes on to normalize it
and refuses what is not complete. The path is that of the file from which the text comes, if any.
-/

set_option autoImplicit false

namespace Upkeep

namespace Group

def decode (path : Option String) (format : Format) (s : String) : Except SpecError Group :=
  match (format.read s).bind (ofDocument? format.dialect) with
  | some g => .ok g
  | none => .error (.undecodable path format s)

def prepare (path : Option String) (g : Group) : Except SpecError Group :=
  match g.normalize.validate with
  | .ok () => .ok g.normalize
  | .error flaw => .error (.flawedAssertions path flaw)

def parse (path : Option String) (format : Format) (s : String) : Except SpecError Group :=
  match decode path format s with
  | .ok g => g.prepare path
  | .error e => .error e

end Group

namespace Fleet

def decode (path : Option String) (format : Format) (s : String) : Except SpecError Fleet :=
  match (format.read s).bind (ofDocument? format.dialect) with
  | some f => .ok f
  | none => .error (.undecodable path format s)

def prepare (path : Option String) (f : Fleet) : Except SpecError Fleet :=
  match f.normalize.validate with
  | .ok () => .ok f.normalize
  | .error flaw => .error (.flawedMachines path flaw)

def parse (path : Option String) (format : Format) (s : String) : Except SpecError Fleet :=
  match decode path format s with
  | .ok f => f.prepare path
  | .error e => .error e

end Fleet

end Upkeep
