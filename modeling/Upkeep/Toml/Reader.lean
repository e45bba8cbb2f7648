import Upkeep.Toml.Scalar
import Upkeep.Toml.Text
import Upkeep.Toml.Tree

/-!
Reading TOML text: lines with keys and values, and headers that name the table which the following
keys belong to.
-/

set_option autoImplicit false

namespace Upkeep.Toml

def skipSpace (cs : List Char) : List Char := cs.dropWhile isSpace

/-- A comment up to the end of its line, or nothing. -/
def skipComment (cs : List Char) : List Char :=
  match cs with
  | '\x23' :: rest => rest.dropWhile isPlain
  | _ => cs

/-- Blanks, line ends and comments; `n` bounds their number. -/
def skipLines : Nat → List Char → List Char
  | 0, cs => cs
  | n + 1, cs =>
    let cs := skipComment (skipSpace cs)
    match newline? cs with
    | some rest => skipLines n rest
    | none => cs

/-- The rest of a line that holds nothing more; the end of the text ends a line too. -/
def endLine? (cs : List Char) : Option (List Char) :=
  match skipComment (skipSpace cs) with
  | [] => some []
  | rest => newline? rest

def isBareKeyChar (c : Char) : Bool := c.isAlphanum || c = '_' || c = '-'

def readName (cs : List Char) : Option (String × List Char) :=
  let (bare, rest) := cs.span isBareKeyChar
  if bare.isEmpty then (readQuoted cs).map fun (text, rest) => (String.ofList text, rest)
  else some (String.ofList bare, rest)

def readKey : Nat → List Char → Option (List String × List Char)
  | 0, _ => none
  | n + 1, cs => do
    let (name, rest) ← readName (skipSpace cs)
    match skipSpace rest with
    | '.' :: rest => do
      let (names, rest) ← readKey n rest
      return (name :: names, rest)
    | rest => return ([name], rest)

/-- A dotted key as the path to a table and a name in it. -/
def pathAndName? (key : List String) : Option (List String × String) :=
  key.getLast?.map (key.dropLast, ·)

/-- How deep lists and inline tables may lie in one another. -/
def maxDepth : Nat := 80

mutual

/-- A value off the front; `n` bounds the work, `depth` is left for lists and tables in it. -/
def readValue : Nat → Nat → List Char → Option (Document × List Char)
  | 0, _, _ => none
  | n + 1, depth, cs =>
    match cs with
    | '[' :: rest => if depth = 0 then none else readItems n (depth - 1) [] rest
    | '\x7b' :: rest => if depth = 0 then none else readEntries n (depth - 1) [] rest
    | _ =>
      match readText cs with
      | some (text, rest) => some (.text (String.ofList text), rest)
      | none => readScalar cs

/-- The items of a list up to its end, after those already read. -/
def readItems : Nat → Nat → List Document → List Char → Option (Document × List Char)
  | 0, _, _, _ => none
  | n + 1, depth, items, cs =>
    match skipLines cs.length cs with
    | ']' :: rest => some (.list items.reverse, rest)
    | cs =>
      match readValue n depth cs with
      | none => none
      | some (d, rest) =>
        match skipLines rest.length rest with
        | ',' :: rest => readItems n depth (d :: items) rest
        | ']' :: rest => some (.list (d :: items).reverse, rest)
        | _ => none

/-- The entries of an inline table up to its end, after those already read. -/
def readEntries : Nat → Nat → Entries → List Char → Option (Document × List Char)
  | 0, _, _, _ => none
  | n + 1, depth, entries, cs =>
    match skipLines cs.length cs with
    | '\x7d' :: rest => some (.table (entriesToDocument entries), rest)
    | cs =>
      match readEntry n depth cs with
      | none => none
      | some (path, name, d, rest) =>
        match addKey path name d entries, skipLines rest.length rest with
        | some entries, ',' :: rest => readEntries n depth entries rest
        | some entries, '\x7d' :: rest => some (.table (entriesToDocument entries), rest)
        | _, _ => none

def readEntry : Nat → Nat → List Char →
    Option (List String × String × Document × List Char)
  | 0, _, _ => none
  | n + 1, depth, cs =>
    match readKey cs.length cs with
    | some (key, '=' :: rest) =>
      match pathAndName? key, readValue n depth (skipSpace rest) with
      | some (path, name), some (d, rest) => some (path, name, d, rest)
      | _, _ => none
    | _ => none

end

def readHeader (cs : List Char) : Option (List String × String × List Char) := do
  let (key, rest) ← readKey cs.length cs
  let (path, name) ← pathAndName? key
  return (path, name, rest)

/-- The lines of a document, of which each takes at least one character; `header` is the path of the
table that keys belong to. -/
def readLines : Nat → List String → Entries → List Char → Option Entries
  | 0, _, _, _ => none
  | n + 1, header, root, cs =>
    match skipLines cs.length cs with
    | [] => some root
    | '[' :: '[' :: rest =>
      match readHeader rest with
      | some (path, name, ']' :: ']' :: rest) => do
        readLines n (path ++ [name]) (← openItem path name root) (← endLine? rest)
      | _ => none
    | '[' :: rest =>
      match readHeader rest with
      | some (path, name, ']' :: rest) => do
        readLines n (path ++ [name]) (← openTable path name root) (← endLine? rest)
      | _ => none
    | cs => do
      let (path, name, d, rest) ← readEntry (4 * cs.length + 4) maxDepth cs
      readLines n header (← addUnder header path name d root) (← endLine? rest)

/-- The document that a text holds; a byte order mark before it is dropped. -/
def read (s : String) : Option Document :=
  let cs := match s.toList with
    | '\ufeff' :: rest => rest
    | cs => cs
  (readLines (cs.length + 1) [] [] cs).map fun root => .table (entriesToDocument root)

end Upkeep.Toml
