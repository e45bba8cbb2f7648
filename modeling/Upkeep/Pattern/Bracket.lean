import Upkeep.Pattern.Basic
import Upkeep.Pattern.Flaw

/-!
Sets in patterns, as they are written between square brackets.
-/

set_option autoImplicit false

namespace Upkeep.Pattern

inductive Element where
  | byte (b : UInt8)
  /-- A character by its name, which can only be itself. -/
  | symbol (name : Bytes)
  /-- All characters that are like one. -/
  | likes (name : Bytes)
  | named (name : Bytes)
  deriving DecidableEq, Repr

def openBracket : UInt8 := 0x5b
def closeBracket : UInt8 := 0x5d
def hyphen : UInt8 := 0x2d
def colon : UInt8 := 0x3a

def maxClassName : Nat := 32

/-- The name before a delimiter and a closing bracket. -/
def readName (delimiter : UInt8) : Nat → Bytes → Except PatternFlaw (Bytes × Bytes)
  | 0, _ => .error .unclosedSet
  | room + 1, b :: b' :: rest =>
    if b = delimiter && b' = closeBracket then .ok ([], rest)
    else (readName delimiter room (b' :: rest)).map fun (name, rest) => (b :: name, rest)
  | _, _ => .error .unclosedSet

/-- Reads one element. A hyphen is one only at the start of a set, in a range, or at the end. -/
def readElement (takesHyphen : Bool) : Bytes → Except PatternFlaw (Element × Bytes)
  | [] => .error .unclosedSet
  | b :: rest =>
    if b = openBracket && (rest.head? = some 0x2e || rest.head? = some 0x3d || rest.head? = some colon)
    then
      let delimiter := rest.headD 0
      (readName delimiter maxClassName rest.tail).map fun (name, rest) =>
        (if delimiter = 0x2e then .symbol name else if delimiter = 0x3d then .likes name
          else .named name, rest)
    else if b = hyphen && !takesHyphen && rest.head? != some closeBracket then
      .error .invalidRange
    else .ok (.byte b, rest)

def Element.ranges : Element → Except PatternFlaw (List (UInt8 × UInt8))
  | .byte b => .ok [(b, b)]
  | .symbol [b] | .likes [b] => .ok [(b, b)]
  | .symbol _ | .likes _ => .error .invalidCollation
  | .named name =>
    match (Bytes.text? name).bind ByteSet.named? with
    | some ranges => .ok ranges
    | none => .error .unknownClass

def Element.isSingle : Element → Bool
  | .byte _ | .symbol _ => true
  | .likes _ | .named _ => false

def Element.bound : Element → Except PatternFlaw UInt8
  | .byte b => .ok b
  | .symbol name => if name.length ≤ 1 then .ok (name.headD 0) else .error .invalidCollation
  | .likes _ | .named _ => .error .invalidRange

def rangeBetween (a b : Element) : Except PatternFlaw (List (UInt8 × UInt8)) :=
  if !b.isSingle then .error .invalidRange
  else do
    let lo ← a.bound
    let hi ← b.bound
    if hi < lo then throw .invalidRange
    return [(lo, hi)]

/-- Whether an element is written between delimiters as a character, not as a class. -/
def Element.collates : Element → Bool
  | .symbol _ | .likes _ => true
  | .byte _ | .named _ => false

/-- The bytes that stand in a set, and whether it has elements that collate. -/
structure Contents where
  ranges : List (UInt8 × UInt8) := []
  collates : Bool := false
  deriving DecidableEq, Repr

def Contents.append (a b : Contents) : Contents :=
  ⟨a.ranges ++ b.ranges, a.collates || b.collates⟩

def Element.contents (e : Element) : Except PatternFlaw Contents :=
  e.ranges.map fun ranges => ⟨ranges, e.collates⟩

def readItem (first : Bool) (bs : Bytes) : Except PatternFlaw (Contents × Bytes) := do
  let (a, rest) ← readElement first bs
  if !a.isSingle then return (← a.contents, rest)
  match rest with
  | [] => throw .unclosedSet
  | b :: rest' =>
    if b = hyphen then
      if rest'.isEmpty then throw .unclosedSet
      else if rest'.head? = some closeBracket then return (← a.contents, rest)
      else
        let (b, rest) ← readElement true rest'
        return (⟨← rangeBetween a b, a.collates || b.collates⟩, rest)
    else return (← a.contents, rest)

/-- Reads what stands in a set up to the bracket that closes it; one that comes first does not. No
set has more items than bytes. -/
def readItems : Nat → Bool → Bytes → Except PatternFlaw (Contents × Bytes)
  | 0, _, _ => .error .unclosedSet
  | room + 1, first, bs =>
    if bs.head? = some closeBracket && !first then .ok ({}, bs.tail)
    else do
      let (contents, rest) ← readItem first bs
      let (more, rest) ← readItems room false rest
      return (contents.append more, rest)

/-- Whether the bytes of a set look like the name of a class with its colons. -/
def looksLikeClass (written : Bytes) : Bool :=
  written.head? == some colon && written.getLast? == some colon &&
    written.any (· != colon) && written.all fun b => b != openBracket && b != hyphen

/-- A set, and whether it looks like a class that is not in a set. -/
structure Bracketed where
  set : ByteSet
  suspicious : Bool
  deriving DecidableEq, Repr

/-- Reads a set, of which the opening bracket has been read. -/
def readSet (bs : Bytes) : Except PatternFlaw (Bracketed × Bytes) := do
  let negated := bs.head? == some 0x5e
  let bs := if negated then bs.tail else bs
  if bs.isEmpty then throw .unbegunSet
  let (contents, rest) ← readItems (bs.length + 1) true bs
  let written := bs.take (bs.length - rest.length - 1)
  return (⟨⟨contents.ranges, negated, contents.collates⟩, looksLikeClass written⟩, rest)

end Upkeep.Pattern
