import Upkeep.Bytes.Basic

/-!
Names in the messages of commands, in a form that a shell would read back, and safe for a terminal.
A name that needs no quoting is shown as it is. Otherwise it stands in single quotation marks, with
bytes that cannot be printed as escapes between marks of their own; but where an apostrophe is the
only trouble, double marks do.
-/

set_option autoImplicit false

namespace Upkeep.Shell

def isPrintable (b : UInt8) : Bool := 0x20 ≤ b && b ≤ 0x7e

/-- Bytes that mean something to a shell, and the colon, which ends a name in a message. -/
def special : Bytes := Bytes.ofString " ?!\"$&()*;<=>[^`|'\\:"

/-- Bytes that mean something at the start of a word. -/
def specialAtStart : Bytes := Bytes.ofString "\x23~"

def isBare (name : Bytes) : Bool :=
  !name.isEmpty && name.all (fun b => isPrintable b && !special.contains b) &&
    !specialAtStart.contains (name.headD 0) && name != [0x7b] && name != [0x7d]

def apostrophe : UInt8 := 0x27

/-- Whether a byte stands for itself also between double marks; `first` in a name. -/
def isCommon (first : Bool) (b : UInt8) : Bool :=
  let c := Char.ofNat b.toNat
  c.isAlphanum || ("%+,-./:]_ '@".toList).contains c || (first && specialAtStart.contains b)

def suitsDoubleMarks (name : Bytes) : Bool :=
  name.contains apostrophe && isCommon true (name.headD 0) && name.tail.all (isCommon false)

def octalDigit (n : Nat) : Char := Char.ofNat (0x30 + n % 8)

/-- A byte that cannot be printed, after a backslash. -/
def escapeCode (b : UInt8) : List Char :=
  match b.toNat with
  | 7 => ['a']
  | 8 => ['b']
  | 9 => ['t']
  | 10 => ['n']
  | 11 => ['v']
  | 12 => ['f']
  | 13 => ['r']
  | n => [octalDigit (n / 64), octalDigit (n / 8), octalDigit n]

/-- The inside of single marks; `escaping` says whether the marks of escapes are open. -/
def singleMarked (escaping : Bool) : Bytes → List Char
  | [] => []
  | b :: rest =>
    if b = apostrophe then "'\\''".toList ++ singleMarked false rest
    else if isPrintable b then
      (if escaping then "''".toList else []) ++ Char.ofNat b.toNat :: singleMarked false rest
    else (if escaping then [] else "'$'".toList) ++ '\\' :: escapeCode b ++ singleMarked true rest

/-- Whether the marks of escapes count as open from the start, which they do before an apostrophe if
the name ends in an escape. -/
def startsEscaping (name : Bytes) : Bool :=
  name.contains apostrophe && name.getLast?.any fun b => !isPrintable b

def shown (name : String) : String :=
  let bs := Bytes.ofString name
  if isBare bs then name
  else if suitsDoubleMarks bs then "\x22" ++ name ++ "\x22"
  else String.ofList ('\x27' :: (singleMarked (startsEscaping bs) bs ++ ['\x27']))

end Upkeep.Shell
