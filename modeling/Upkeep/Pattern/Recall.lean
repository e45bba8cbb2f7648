import Upkeep.Pattern.Basic

/-!
Searching a line for a pattern that recalls what its groups have matched. All ways to match are
followed, each with what its groups have matched so far.
-/

set_option autoImplicit false

namespace Upkeep.Pattern

/-- Where a match has got to: the bytes before that place, the nearest first, and those after it. -/
structure Cursor where
  before : Bytes
  after : Bytes
  /-- What groups have matched, the latest first. -/
  groups : List (Nat × Bytes) := []
  deriving DecidableEq, Repr

namespace Cursor

def advance (c : Cursor) (n : Nat) : Cursor :=
  { c with before := (c.after.take n).reverse ++ c.before, after := c.after.drop n }

def since (start c : Cursor) : Bytes := start.after.take (start.after.length - c.after.length)

def remember (c : Cursor) (index : Nat) (content : Bytes) : Cursor :=
  { c with groups := (index, content) :: c.groups.filter fun g => g.1 != index }

end Cursor

def exactly (step : Cursor → List Cursor) : Nat → List Cursor → List Cursor
  | 0, cs => cs
  | n + 1, cs => exactly step n (cs.flatMap step).eraseDups

/-- Takes a step at most so many times, as long as it gets anywhere new. -/
def atMost (step : Cursor → List Cursor) : Nat → List Cursor → List Cursor
  | 0, cs => cs
  | n + 1, cs =>
    let further := (cs.flatMap step).eraseDups.filter fun c => !cs.contains c
    if further.isEmpty then cs else (cs ++ atMost step n further).eraseDups

/-- How often a step can lead to new places: it moves on, or changes one of nine groups. -/
def Cursor.stepLimit (c : Cursor) : Nat := 10 * (c.after.length + 1)

/-- All places that a match from a cursor can get to. -/
def ways : Pattern → Cursor → List Cursor
  | .empty, c => [c]
  | .one set, c =>
    match c.after with
    | b :: _ => if set.contains b then [c.advance 1] else []
    | [] => []
  | .edge e, c => if e.isAt c.before.head? c.after.head? then [c] else []
  | .seq a b, c => ((a.ways c).flatMap b.ways).eraseDups
  | .alt a b, c => (a.ways c ++ b.ways c).eraseDups
  | .times a least most, c =>
    let room := match most with
      | some n => n - least
      | none => c.stepLimit
    atMost a.ways room (exactly a.ways least [c])
  | .group index a, c => (a.ways c).map fun c' => c'.remember index (c.since c')
  | .recall index, c =>
    match c.groups.lookup index with
    | some content => if content.isPrefixOf c.after then [c.advance content.length] else []
    | none => []

/-- Whether a pattern matches at some place of a line from here on. -/
def matchesFrom (p : Pattern) (before : Bytes) : Bytes → Bool
  | [] => !(p.ways ⟨before, [], []⟩).isEmpty
  | b :: rest =>
    !(p.ways ⟨before, b :: rest, []⟩).isEmpty || matchesFrom p (b :: before) rest

/-- Whether a pattern matches somewhere on a line. -/
def matchesRecalling (p : Pattern) (line : Bytes) : Bool := p.matchesFrom [] line

end Upkeep.Pattern
