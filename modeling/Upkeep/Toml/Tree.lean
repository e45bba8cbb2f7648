import Upkeep.Document.Basic

/-!
The tables of a TOML document while it is read. Where a table comes from decides in which ways it
can be added to: one that a header names is complete when the next header begins, one that only
lies on the way to others can still be named, and one that arises from a dotted key grows by dotted
keys alone. Values, inline tables among them, never grow.
-/

set_option autoImplicit false

namespace Upkeep.Toml

inductive Origin where
  /-- Named by a header. -/
  | named
  /-- On the way to a table that a header names. -/
  | passed
  /-- On the way of a dotted key. -/
  | dotted
  deriving DecidableEq, Repr

inductive Node where
  | value (d : Document)
  | table (origin : Origin) (entries : List (String × Node))
  /-- The tables of an array, each named by a header of its own; the last one comes first. -/
  | tables (items : List (List (String × Node)))

abbrev Entries := List (String × Node)

/-- The entry of a name replaced, or put at the end. -/
def put (name : String) (node : Node) : Entries → Entries
  | [] => [(name, node)]
  | e :: es => if e.1 = name then (name, node) :: es else e :: put name node es

/-- Changes the table at the end of a path; tables that are missing on the way come to be as
`created`. A dotted key does not pass through tables that a header names. -/
def under (created : Origin) (change : Origin → Entries → Option Entries) (origin : Origin) :
    List String → Entries → Option Entries
  | [], entries => change origin entries
  | name :: path, entries =>
    match entries.lookup name with
    | none => do
      let inner ← under created change created path []
      return put name (.table created inner) entries
    | some (.table inside es) =>
      if created = .dotted && inside = .named then none
      else do
        let inner ← under created change inside path es
        return put name (.table inside inner) entries
    | some (.tables (es :: others)) => do
      let inner ← under created change .named path es
      return put name (.tables (inner :: others)) entries
    | some _ => none

def addKey (path : List String) (name : String) (d : Document) (entries : Entries) :
    Option Entries :=
  under .dotted
    (fun origin es =>
      if (origin == .dotted) == !path.isEmpty && (es.lookup name).isNone then
        some (put name (.value d) es)
      else none)
    .named path entries

def openTable (path : List String) (name : String) (root : Entries) : Option Entries :=
  under .passed
    (fun _ es =>
      match es.lookup name with
      | none => some (put name (.table .named []) es)
      | some (.table .passed inner) => some (put name (.table .named inner) es)
      | some _ => none)
    .named path root

def openItem (path : List String) (name : String) (root : Entries) : Option Entries :=
  under .passed
    (fun _ es =>
      match es.lookup name with
      | none => some (put name (.tables [[]]) es)
      | some (.tables items) => some (put name (.tables ([] :: items)) es)
      | some _ => none)
    .named path root

/-- A key and its value, put into the table of the last header. -/
def addUnder (header : List String) (path : List String) (name : String) (d : Document)
    (root : Entries) : Option Entries :=
  under .passed (fun _ es => addKey path name d es) .named header root

mutual

def Node.toDocument : Node → Document
  | .value d => d
  | .table _ entries => .table (entriesToDocument entries)
  | .tables items => .list (itemsToDocument items).reverse

def entriesToDocument : List (String × Node) → List (String × Document)
  | [] => []
  | (name, node) :: es => (name, node.toDocument) :: entriesToDocument es

def itemsToDocument : List (List (String × Node)) → List Document
  | [] => []
  | es :: rest => .table (entriesToDocument es) :: itemsToDocument rest

end

end Upkeep.Toml
