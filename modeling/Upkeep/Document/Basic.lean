/-!
The value that a specification file holds, whichever format it is written in: scalars, lists and
tables. Tables keep their entries in the order of the file, repeated names included, because what
a repetition means is for the reader of the table to say.
-/

set_option autoImplicit false

namespace Upkeep

inductive Document where
  | null
  | bool (value : Bool)
  | int (value : Int)
  /-- A number with a fraction or an exponent, or too large for a machine integer. -/
  | real (written : String)
  | text (value : String)
  | list (items : List Document)
  | table (entries : List (String × Document))
  /-- A value written as an expression, with the text that stands for it where a text is wanted. -/
  | expression (written : String) (value : Document)
  /-- Correct in its place but without a value: it can be skipped and not be read. -/
  | unreadable
  deriving Inhabited, BEq, Repr

namespace Document

def value : Document → Document
  | .expression _ d => value d
  | d => d

/-- How deep the tallest stack of lists and tables is. -/
def depth : Document → Nat
  | .list items => 1 + depthItems items
  | .table entries => 1 + depthEntries entries
  | .expression _ d => depth d
  | _ => 0
where
  depthItems : List Document → Nat
    | [] => 0
    | d :: ds => max (depth d) (depthItems ds)
  depthEntries : List (String × Document) → Nat
    | [] => 0
    | (_, d) :: ds => max (depth d) (depthEntries ds)

/-- The document without expressions: each is replaced by its value. A value that cannot be held
on its own, unreadable or an integer beyond 64 bits, leaves none. -/
def settled : Document → Option Document
  | .expression _ d => settled d
  | .unreadable => none
  | .int i => if Int64.minValue.toInt ≤ i ∧ i < UInt64.size then some (.int i) else none
  | .list items => (settledItems items).map .list
  | .table entries => (settledEntries entries).map .table
  | d => some d
where
  settledItems : List Document → Option (List Document)
    | [] => some []
    | d :: ds =>
      match settled d, settledItems ds with
      | some d', some ds' => some (d' :: ds')
      | _, _ => none
  settledEntries : List (String × Document) → Option (List (String × Document))
    | [] => some []
    | (name, d) :: ds =>
      match settled d, settledEntries ds with
      | some d', some ds' => some ((name, d') :: ds')
      | _, _ => none

/-- The value under a name; of several, the first. -/
def get? (name : String) : Document → Option Document
  | .table entries => entries.lookup name
  | _ => none

end Document

end Upkeep
