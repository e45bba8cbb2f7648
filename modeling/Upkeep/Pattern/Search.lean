import Upkeep.Pattern.Basic

/-!
Searching a line for a pattern without recalls. The line is read once, byte by byte. What is kept is
the list of those patterns that the rest of the line has to continue with; one that is satisfied by
nothing at all ends the search.
-/

set_option autoImplicit false

namespace Upkeep.Pattern

/-- Whether a pattern matches nothing at a place between two bytes. -/
def matchesEmpty (before after : Option UInt8) : Pattern → Bool
  | .empty => true
  | .one _ | .recall _ => false
  | .edge e => e.isAt before after
  | .seq a b => a.matchesEmpty before after && b.matchesEmpty before after
  | .alt a b => a.matchesEmpty before after || b.matchesEmpty before after
  | .times a least _ => least == 0 || a.matchesEmpty before after
  | .group _ a => a.matchesEmpty before after

def followedBy : Pattern → Pattern → Pattern
  | .empty, b => b
  | a, b => .seq a b

/-- What can be left of a pattern once it has matched a byte. Of a repeated pattern that matches
nothing at this place, any number of the required times may have been spent here. -/
def leftAfter (before : Option UInt8) (b : UInt8) : Pattern → List Pattern
  | .empty | .edge _ | .recall _ => []
  | .one set => if set.contains b then [.empty] else []
  | .seq x y =>
    (x.leftAfter before b).map (·.followedBy y) ++
      if x.matchesEmpty before (some b) then y.leftAfter before b else []
  | .alt x y => x.leftAfter before b ++ y.leftAfter before b
  | .times x least most =>
    if most = some 0 then []
    else
      let still := if x.matchesEmpty before (some b) then 0 else least - 1
      (x.leftAfter before b).map (·.followedBy (.times x still (most.map (· - 1))))
  | .group _ a => a.leftAfter before b

/-- Whether one of `pending`, or `p` from any place on, matches in the rest of a line. -/
def searchFrom (p : Pattern) (before : Option UInt8) : List Pattern → Bytes → Bool
  | pending, [] => (p :: pending).any (·.matchesEmpty before none)
  | pending, b :: rest =>
    if (p :: pending).any (·.matchesEmpty before (some b)) then true
    else
      searchFrom p (some b)
        ((p :: pending).flatMap (·.leftAfter before b)).eraseDups rest

end Upkeep.Pattern
