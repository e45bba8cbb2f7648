import Upkeep.Bytes.Base64
import Upkeep.Key.Label

/-!
The bytes of an armoured key. Its marks stand alone on their lines, and between them is base 64 in
lines of a fixed width, of which the last may be shorter. There may be other text before the first
mark, but none after the last.
-/

set_option autoImplicit false

namespace Upkeep.Key

/-- The width of the lines of most kinds of keys. -/
def usualWidth : Nat := 64

def markBytes (mark : List Char) : Bytes := Bytes.ofString (String.ofList mark)

/-- From the mark that begins the key on: at the start or after a line feed, with no NUL before. -/
def fromBegin : Bytes → Option Bytes
  | [] => none
  | b :: rest =>
    if b = 0 then none
    else if b = 0x0a && (markBytes beginMark).isPrefixOf rest then some rest
    else fromBegin rest

def skipPreamble (bs : Bytes) : Option Bytes :=
  if (markBytes beginMark).isPrefixOf bs then some bs else fromBegin bs

def afterLineEnd? : Bytes → Option Bytes
  | 0x0d :: 0x0a :: rest | 0x0d :: rest | 0x0a :: rest => some rest
  | _ => none

def beforeLineEnd? (bs : Bytes) : Option Bytes :=
  match bs.reverse with
  | 0x0a :: 0x0d :: rest | 0x0d :: rest | 0x0a :: rest => some rest.reverse
  | _ => none

/-- Whether these bytes can be a label: words of visible characters other than hyphens, with one
blank between them. -/
def isLabel (afterBlank : Bool) : Bytes → Bool
  | [] => true
  | b :: rest =>
    if 0x21 ≤ b && b ≤ 0x7e && b ≠ 0x2d then isLabel false rest
    else (b = 0x20 || b = 0x09) && !afterBlank && isLabel true rest

/-- The label, and what stands between the two marks. -/
def body? (bs : Bytes) : Option (Bytes × Bytes) := do
  let bs ← after? (markBytes beginMark) (← skipPreamble bs)
  let label := bs.takeWhile (· != 0x2d)
  if !isLabel true label then none
  let bs ← after? (markBytes closingMark) (bs.drop label.length)
  let bs ← afterLineEnd? bs
  let bs := (beforeLineEnd? bs).getD bs
  let bs ← before? label (← before? (markBytes closingMark) bs)
  return (label, ← beforeLineEnd? (← before? (markBytes endMark) bs))

theorem length_lt_of_afterLineEnd? {bs rest : Bytes} (h : afterLineEnd? bs = some rest) :
    rest.length < bs.length := by
  unfold afterLineEnd? at h
  split at h <;> cases h <;> simp only [List.length_cons] <;> omega

/-- Joins lines of this width. A last line that is shorter may be followed by one more line end. -/
def joinLines (width : Nat) (bs : Bytes) : Option Bytes :=
  if bs.length ≤ width then some ((beforeLineEnd? bs).getD bs)
  else
    match _h : afterLineEnd? (bs.drop width) with
    | some rest => (joinLines width rest).map (bs.take width ++ ·)
    | none => none
termination_by bs.length
decreasing_by
  have := length_lt_of_afterLineEnd? _h
  simp only [List.length_drop] at this
  omega

/-- The label and the bytes in a text that is armoured with lines of this width. -/
def armoured? (width : Nat) (s : String) : Option (Bytes × Bytes) := do
  let (label, body) ← body? (Bytes.ofString s)
  if body.isEmpty then none
  return (label, ← Base64.decode (← joinLines width body))

end Upkeep.Key
