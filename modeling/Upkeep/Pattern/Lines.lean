import Upkeep.Pattern.Reader
import Upkeep.Pattern.Recall
import Upkeep.Pattern.Search

/-!
Searching the lines of a file. A text may give several patterns, one a line, of which any will do.
-/

set_option autoImplicit false

namespace Upkeep.Pattern

/-- Whether a pattern matches somewhere on a line. -/
def matchesLine (p : Pattern) (line : Bytes) : Bool :=
  if p.usesRecall then p.matchesRecalling line else p.searchFrom none [] line

/-- Pieces between bytes that separate; one more piece than there are separators. -/
def pieces (isSeparator : UInt8 → Bool) : Bytes → List Bytes
  | [] => [[]]
  | b :: bs =>
    if isSeparator b then [] :: pieces isSeparator bs
    else match pieces isSeparator bs with
      | [] => [[b]]
      | piece :: rest => (b :: piece) :: rest

def lineFeed : UInt8 := 0x0a

/-- The lines of a file; NUL bytes end lines too. After the last line end there is none. -/
def fileLines (content : Bytes) : List Bytes :=
  let pieces := pieces (fun b => b == lineFeed || b == 0) content
  match pieces.getLast? with
  | some [] => pieces.dropLast
  | _ => pieces

/-- What comes of reading a text that may give several patterns. -/
structure Readings where
  result : Except (List PatternFlaw) (List Pattern)
  notes : List Mark := []

/-- Reads texts to search for them, up to the first flaw. -/
def readToSearch : List Bytes → Readings
  | [] => ⟨.ok [], []⟩
  | text :: texts =>
    match read .search text with
    | (.error flaw, notes) => ⟨.error [flaw], notes⟩
    | (.ok p, notes) =>
      let others := readToSearch texts
      ⟨others.result.map (p :: ·), notes ++ others.notes⟩

/-- Of the two patterns that a text is read as, the one to use. -/
def chosen (toSearch toRecall : Pattern) : Pattern :=
  if toSearch.isInvolved then toRecall else toSearch

/-- The patterns that a text gives, or what is wrong with it. -/
def readAll (text : Bytes) : Readings :=
  let texts := (pieces (· == lineFeed) text).eraseDups
  let results := texts.map fun text => (read .recall text).1
  let flaws := results.filterMap fun
    | .error flaw => some flaw
    | .ok _ => none
  if !flaws.isEmpty then { result := .error flaws }
  else
    let toSearch := readToSearch texts
    ⟨toSearch.result.map fun ps => List.zipWith chosen ps (results.filterMap Except.toOption),
      toSearch.notes⟩

def anyLine (patterns : List Pattern) (content : Bytes) : Bool :=
  (fileLines content).any fun line => patterns.any (·.matchesLine line)

end Upkeep.Pattern
