/-!
White space as Unicode defines it, and the ways texts are cut by it: trimming at either end,
words between white space, and lines. Everything is stated on lists of characters; the versions
on strings only pack and unpack.
-/

set_option autoImplicit false

namespace Upkeep.Text

/-- The characters with the property White_Space. -/
def isBlank (c : Char) : Bool :=
  let n := c.toNat
  (9 ≤ n && n ≤ 13) || n == 0x20 || n == 0x85 || n == 0xa0 || n == 0x1680 ||
    (0x2000 ≤ n && n ≤ 0x200a) || n == 0x2028 || n == 0x2029 || n == 0x202f || n == 0x205f ||
    n == 0x3000

def dropEndWhile (p : Char → Bool) (cs : List Char) : List Char :=
  (cs.reverse.dropWhile p).reverse

def trimChars (cs : List Char) : List Char :=
  dropEndWhile isBlank (cs.dropWhile isBlank)

def trim (s : String) : String := String.ofList (trimChars s.toList)

def isBlankText (s : String) : Bool := s.toList.all isBlank

/-- The first run of characters that are not white space; empty when there is none. -/
def firstWord (s : String) : String :=
  String.ofList ((s.toList.dropWhile isBlank).takeWhile fun c => !isBlank c)

/-- Pieces between occurrences of `sep`; one more piece than there are occurrences. -/
def splitAt (sep : Char) : List Char → List (List Char)
  | [] => [[]]
  | c :: cs =>
    if c = sep then [] :: splitAt sep cs
    else match splitAt sep cs with
      | [] => [[c]]
      | piece :: pieces => (c :: piece) :: pieces

theorem splitAt_ne_nil (sep : Char) (cs : List Char) : splitAt sep cs ≠ [] := by
  cases cs with
  | nil => exact List.cons_ne_nil _ _
  | cons c cs =>
    rw [splitAt]
    split
    · exact List.cons_ne_nil _ _
    · split <;> exact List.cons_ne_nil _ _

theorem splitAt_append (sep : Char) (before after : List Char) :
    splitAt sep (before ++ sep :: after) = splitAt sep before ++ splitAt sep after := by
  induction before with
  | nil => simp [splitAt]
  | cons c before ih =>
    rw [List.cons_append, splitAt, splitAt, ih]
    split
    · rw [List.cons_append]
    · cases h : splitAt sep before with
      | nil => exact absurd h (splitAt_ne_nil sep before)
      | cons piece pieces => rfl

/-- The lines of a text: each is ended by a line feed, before which one carriage return is dropped.
What follows the last line feed is a line of its own unless it is empty. -/
def lines (s : String) : List (List Char) :=
  let pieces := splitAt '\n' s.toList
  let ended := pieces.dropLast.map fun piece =>
    if piece.getLast? = some '\r' then piece.dropLast else piece
  ended ++ (pieces.getLast?.toList.filter fun piece => !piece.isEmpty)

/-- The part before and the part after the last `sep`, if there is one. -/
def splitLast? (sep : Char) (cs : List Char) : Option (List Char × List Char) :=
  let tail := cs.reverse.takeWhile (· != sep)
  if tail.length < cs.length then
    some (cs.take (cs.length - tail.length - 1), tail.reverse)
  else none

end Upkeep.Text
