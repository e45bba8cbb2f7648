import Upkeep.Pattern.Bracket
import Upkeep.Pattern.Interval

/-!
Patterns from texts. A text is read from left to right, and open groups are kept on a stack.

There are two ways to read a text, which differ in marks of repetition that have nothing to repeat
because an alternative begins there, or because they follow an edge. To search, they repeat nothing,
or the edge. To recall, they are left out, and a closing mark after them stands for itself. What
cannot be read in the second way is no pattern.
-/

set_option autoImplicit false

namespace Upkeep.Pattern

/-- A group that is being read, or the pattern as a whole. -/
structure Frame where
  /-- The alternatives that are complete, the last first. -/
  alternatives : List Pattern := []
  /-- The items of the alternative at hand, the last first. -/
  items : List Pattern := []
  /-- The groups that were complete when this one began. -/
  outside : List Nat := []
  /-- The groups that can be recalled here. -/
  known : List Nat := []
  /-- Those that are complete in other alternatives. -/
  elsewhere : List Nat := []

namespace Frame

def sequence : List Pattern → Pattern
  | [] => .empty
  | [p] => p
  | p :: ps => .seq p (sequence ps)

/-- One of several patterns, of which the first is given apart. -/
def choice (p : Pattern) : List Pattern → Pattern
  | [] => p
  | q :: qs => .alt p (choice q qs)

def push (f : Frame) (p : Pattern) : Frame := { f with items := p :: f.items }

def split (f : Frame) : Frame :=
  { f with
    alternatives := sequence f.items.reverse :: f.alternatives
    items := []
    known := f.outside
    elsewhere := f.known ++ f.elsewhere }

def pattern (f : Frame) : Pattern :=
  match (sequence f.items.reverse :: f.alternatives).reverse with
  | p :: ps => choice p ps
  | [] => .empty

/-- The groups that are complete where this one ends. -/
def complete (f : Frame) : List Nat := f.known ++ f.elsewhere

def times (f : Frame) (least : Nat) (most : Option Nat) : Frame :=
  match f.items with
  | p :: ps => { f with items := .times p least most :: ps }
  | [] => f.push (.times .empty least most)

end Frame

inductive Purpose where
  | search
  | recall
  deriving DecidableEq, Repr

structure Reading where
  /-- The group at hand, with its number; the whole has number zero. -/
  frame : Frame := {}
  index : Nat := 0
  /-- The groups around it. -/
  around : List (Nat × Frame) := []
  /-- How many groups have begun. -/
  groups : Nat := 0
  /-- Whether the alternative at hand has but edges and marks so far. -/
  atStart : Bool := true
  /-- Whether something that is no edge has just been read. -/
  repeatable : Bool := false
  /-- Whether a mark has just been left out. -/
  leftOut : Bool := false
  /-- The marks before which there is nothing to repeat. -/
  notes : List Mark := []

namespace Reading

def push (r : Reading) (p : Pattern) : Reading :=
  { r with frame := r.frame.push p, atStart := false, repeatable := true, leftOut := false }

def pushByte (r : Reading) (b : UInt8) : Reading := r.push (.one (.single b))

def pushEdge (r : Reading) (e : Edge) : Reading :=
  { r with frame := r.frame.push (.edge e), repeatable := false, leftOut := false }

/-- The beginning of an alternative in a frame. -/
def begin (r : Reading) (frame : Frame) : Reading :=
  { r with frame := frame, atStart := true, repeatable := false, leftOut := false }

def leaveOut (r : Reading) : Reading := { r with leftOut := true }

/-- Notes a mark, if there is nothing before it. -/
def note (r : Reading) (m : Mark) : Reading :=
  if r.atStart then { r with notes := r.notes ++ [m] } else r

def times (r : Reading) (least : Nat) (most : Option Nat) : Reading :=
  { r with frame := r.frame.times least most }

def mark (purpose : Purpose) (r : Reading) (m : Mark) (least : Nat) (most : Option Nat) : Reading :=
  match purpose with
  | .search => (r.note m).times least most
  | .recall => if r.repeatable then r.times least most else r.leaveOut

def openGroup (r : Reading) : Reading :=
  { r.begin { outside := r.frame.known, known := r.frame.known } with
    index := r.groups + 1
    around := (r.index, r.frame) :: r.around
    groups := r.groups + 1 }

/-- A closing mark without a group to close stands for itself, and so does one before which a mark
has been left out. -/
def closeGroup (r : Reading) : Reading :=
  match if r.leftOut then [] else r.around with
  | [] => r.pushByte 0x29
  | (index, frame) :: around =>
    let closed := { r with frame := frame, index := index, around := around }.push
      (.group r.index r.frame.pattern)
    { closed with
      frame := { closed.frame with known := r.index :: (r.frame.complete ++ frame.known) } }

def escaped (r : Reading) (b : UInt8) : Except PatternFlaw Reading :=
  match Char.ofNat b.toNat with
  | '<' => .ok (r.pushEdge .wordStart)
  | '>' => .ok (r.pushEdge .wordEnd)
  | 'b' => .ok (r.pushEdge .wordBreak)
  | 'B' => .ok (r.pushEdge .noWordBreak)
  | '\x60' => .ok (r.pushEdge .lineStart)
  | '\x27' => .ok (r.pushEdge .lineEnd)
  | 'w' => .ok (r.push (.one .word))
  | 'W' => .ok (r.push (.one ByteSet.word.complement))
  | 's' => .ok (r.push (.one .space))
  | 'S' => .ok (r.push (.one ByteSet.space.complement))
  | _ =>
    if 0x31 ≤ b && b ≤ 0x39 then
      let index := b.toNat - 0x30
      if r.frame.known.contains index then .ok (r.push (.recall index))
      else .error .invalidRecall
    else .ok (r.pushByte b)

/-- An opening brace that does not belong to an interval. -/
def openBrace (r : Reading) : Reading := r.pushByte 0x7b

def braced (purpose : Purpose) (r : Reading) (rest : Bytes) :
    Except PatternFlaw (Reading × Bytes) :=
  match purpose with
  | .search =>
    match readInterval rest with
    | .times least most rest =>
      if most.any (maxTimes < ·) then .error .tooMany
      else .ok ({ (r.note .braces).times least most with atStart := false }, rest)
    | _ => .ok (r.openBrace, rest)
  | .recall =>
    if !r.repeatable then .ok (r.leaveOut, rest)
    else
      match readInterval rest with
      | .times least most rest =>
        if maxTimes < most.getD least then .error .tooBig else .ok (r.times least most, rest)
      | .literal => .ok (r.openBrace, rest)
      | .improper => .error .invalidInterval

/-- A set that looks as if a class were meant that is none is only noticed in a search. -/
def bracketed (purpose : Purpose) (r : Reading) (rest : Bytes) :
    Except PatternFlaw (Reading × Bytes) :=
  match readSet rest with
  | .error flaw => .error flaw
  | .ok (b, rest) =>
    if purpose = .search && b.suspicious then .error .bareClass
    else .ok (r.push (.one b.set), rest)

def step (purpose : Purpose) (r : Reading) (b : UInt8) (rest : Bytes) :
    Except PatternFlaw (Reading × Bytes) :=
  match Char.ofNat b.toNat with
  | '\\' =>
    match rest with
    | [] => .error .trailingBackslash
    | b' :: rest => (r.escaped b').map fun r => (r, rest)
  | '[' => r.bracketed purpose rest
  | '(' => .ok (r.openGroup, rest)
  | ')' => .ok (r.closeGroup, rest)
  | '|' => .ok (r.begin r.frame.split, rest)
  | '*' => .ok (r.mark purpose .star 0 none, rest)
  | '+' => .ok (r.mark purpose .plus 1 none, rest)
  | '?' => .ok (r.mark purpose .question 0 (some 1), rest)
  | '\x7b' => r.braced purpose rest
  | '^' => .ok (r.pushEdge .lineStart, rest)
  | '$' => .ok (r.pushEdge .lineEnd, rest)
  | '.' => .ok (r.push (.one .all), rest)
  | _ => .ok (r.pushByte b, rest)

/-- Reads to the end, or to a flaw; there are no more steps than bytes. -/
def run (purpose : Purpose) : Nat → Reading → Bytes → Reading × Option PatternFlaw
  | _, r, [] => (r, if r.around.isEmpty then none else some .unclosedGroup)
  | 0, r, _ => (r, none)
  | room + 1, r, b :: rest =>
    match r.step purpose b rest with
    | .ok (r, rest) => run purpose room r rest
    | .error flaw => (if flaw = .tooMany then r.note .braces else r, some flaw)

end Reading

/-- Reads a text, and keeps the marks before which there is nothing to repeat. -/
def read (purpose : Purpose) (text : Bytes) : Except PatternFlaw Pattern × List Mark :=
  match Reading.run purpose text.length {} text with
  | (r, none) => (.ok r.frame.pattern, r.notes)
  | (r, some flaw) => (.error flaw, r.notes)

end Upkeep.Pattern
