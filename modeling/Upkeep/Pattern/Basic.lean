import Upkeep.Bytes.Basic

/-!
Patterns for lines of bytes: the extended regular expressions of POSIX in a locale where every byte
is a character, with the usual additions for words and for what a group has matched before.
-/

set_option autoImplicit false

namespace Upkeep

/-- Bytes in or, if negated, outside of some closed ranges. -/
structure ByteSet where
  ranges : List (UInt8 × UInt8)
  negated : Bool := false
  /-- Whether some of them were written as characters that collate. -/
  collates : Bool := false
  deriving DecidableEq, Repr

namespace ByteSet

def contains (s : ByteSet) (b : UInt8) : Bool :=
  (s.ranges.any fun r => r.1 ≤ b && b ≤ r.2) != s.negated

def single (b : UInt8) : ByteSet := { ranges := [(b, b)] }

def all : ByteSet := { ranges := [], negated := true }

def complement (s : ByteSet) : ByteSet := { s with negated := !s.negated }

def digits : List (UInt8 × UInt8) := [(0x30, 0x39)]

def letters : List (UInt8 × UInt8) := [(0x41, 0x5a), (0x61, 0x7a)]

def word : ByteSet := { ranges := (0x5f, 0x5f) :: (letters ++ digits) }

def space : ByteSet := { ranges := [(0x09, 0x0d), (0x20, 0x20)] }

def named? (name : String) : Option (List (UInt8 × UInt8)) :=
  match name with
  | "alpha" => some letters
  | "digit" => some digits
  | "alnum" => some (letters ++ digits)
  | "upper" => some [(0x41, 0x5a)]
  | "lower" => some [(0x61, 0x7a)]
  | "space" => some space.ranges
  | "blank" => some [(0x09, 0x09), (0x20, 0x20)]
  | "punct" => some [(0x21, 0x2f), (0x3a, 0x40), (0x5b, 0x60), (0x7b, 0x7e)]
  | "print" => some [(0x20, 0x7e)]
  | "graph" => some [(0x21, 0x7e)]
  | "cntrl" => some [(0x00, 0x1f), (0x7f, 0x7f)]
  | "xdigit" => some (digits ++ [(0x41, 0x46), (0x61, 0x66)])
  | _ => none

end ByteSet

inductive Edge where
  | lineStart
  | lineEnd
  | wordStart
  | wordEnd
  /-- Where a word starts or ends. -/
  | wordBreak
  | noWordBreak
  deriving DecidableEq, Repr

/-- Whether a place is such an edge; `before` and `after` are the bytes on either side of it. -/
def Edge.isAt (before after : Option UInt8) : Edge → Bool
  | .lineStart => before.isNone
  | .lineEnd => after.isNone
  | .wordStart => !before.any ByteSet.word.contains && after.any ByteSet.word.contains
  | .wordEnd => before.any ByteSet.word.contains && !after.any ByteSet.word.contains
  | .wordBreak => before.any ByteSet.word.contains != after.any ByteSet.word.contains
  | .noWordBreak => before.any ByteSet.word.contains == after.any ByteSet.word.contains

inductive Pattern where
  /-- Nothing, at any place. -/
  | empty
  | one (set : ByteSet)
  | edge (e : Edge)
  | seq (a b : Pattern)
  | alt (a b : Pattern)
  /-- At least `least` times and, if there is a `most`, at most that often. -/
  | times (a : Pattern) (least : Nat) (most : Option Nat)
  | group (index : Nat) (a : Pattern)
  /-- What a group has matched last. -/
  | recall (index : Nat)
  deriving DecidableEq, Repr

namespace Pattern

def usesRecall : Pattern → Bool
  | .empty | .one _ | .edge _ => false
  | .seq a b | .alt a b => a.usesRecall || b.usesRecall
  | .times a _ _ | .group _ a => a.usesRecall
  | .recall _ => true

/-- Whether matches are only decided with recalls, or by how characters collate. What is repeated no
times decides nothing. -/
def isInvolved : Pattern → Bool
  | .empty | .edge _ => false
  | .one set => set.collates
  | .seq a b | .alt a b => a.isInvolved || b.isInvolved
  | .times a _ most => most != some 0 && a.isInvolved
  | .group _ a => a.isInvolved
  | .recall _ => true

end Pattern

end Upkeep
