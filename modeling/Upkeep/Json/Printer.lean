import Upkeep.Document.Basic
import Upkeep.Document.Number

/-!
Documents as JSON text: compact, or indented with one entry a line.
-/

set_option autoImplicit false

namespace Upkeep.Json

def lowerHexDigit (n : Nat) : Char := Char.ofNat (if n < 10 then 0x30 + n else 0x57 + n)

/-- How a character stands inside quotation marks. -/
def escape (c : Char) : List Char :=
  if c = '\x22' then ['\\', '\x22']
  else if c = '\\' then ['\\', '\\']
  else if c = '\x08' then ['\\', 'b']
  else if c = '\x0c' then ['\\', 'f']
  else if c = '\n' then ['\\', 'n']
  else if c = '\r' then ['\\', 'r']
  else if c = '\t' then ['\\', 't']
  else if c.toNat < 0x20 then
    ['\\', 'u', '0', '0', lowerHexDigit (c.toNat / 16), lowerHexDigit (c.toNat % 16)]
  else [c]

def quote (s : String) : List Char := '\x22' :: (s.toList.flatMap escape ++ ['\x22'])

/-- The text of a document without any white space. -/
def compactChars : Document → List Char
  | .null | .unreadable => ['n', 'u', 'l', 'l']
  | .bool true => ['t', 'r', 'u', 'e']
  | .bool false => ['f', 'a', 'l', 's', 'e']
  | .int i => Number.intDigits i
  | .real written => written.toList
  | .text s => quote s
  | .list [] => ['[', ']']
  | .list (d :: ds) => '[' :: (compactChars d ++ items ds)
  | .table [] => ['\x7b', '\x7d']
  | .table ((name, d) :: es) => '\x7b' :: (quote name ++ ':' :: (compactChars d ++ entries es))
  | .expression _ d => compactChars d
where
  items : List Document → List Char
    | [] => [']']
    | d :: ds => ',' :: (compactChars d ++ items ds)
  entries : List (String × Document) → List Char
    | [] => ['\x7d']
    | (name, d) :: es => ',' :: (quote name ++ ':' :: (compactChars d ++ entries es))

def compact (d : Document) : String := String.ofList (compactChars d)

/-- A new line at a depth of nesting, two blanks a level. -/
def newline (level : Nat) : List Char := '\n' :: List.replicate (2 * level) ' '

/-- The text of a document at a depth of nesting, each item and entry on a line of its own. -/
def prettyChars (level : Nat) : Document → List Char
  | .list (d :: ds) => '[' :: (newline (level + 1) ++ prettyChars (level + 1) d ++ items ds)
  | .table ((name, d) :: es) =>
    '\x7b' :: (newline (level + 1) ++ quote name ++ [':', ' '] ++ prettyChars (level + 1) d ++
      entries es)
  | .expression _ d => prettyChars level d
  | d => compactChars d
where
  items : List Document → List Char
    | [] => newline level ++ [']']
    | d :: ds => ',' :: (newline (level + 1) ++ prettyChars (level + 1) d ++ items ds)
  entries : List (String × Document) → List Char
    | [] => newline level ++ ['\x7d']
    | (name, d) :: es =>
      ',' :: (newline (level + 1) ++ quote name ++ [':', ' '] ++ prettyChars (level + 1) d ++
        entries es)

def pretty (d : Document) : String := String.ofList (prettyChars 0 d)

/-- The document with the entries of every table in ascending order of their names. -/
def sortNames : Document → Document
  | .list ds => .list (items ds)
  | .table es => .table ((entries es).mergeSort fun a b => a.1 ≤ b.1)
  | .expression _ d => sortNames d
  | d => d
where
  items : List Document → List Document
    | [] => []
    | d :: ds => sortNames d :: items ds
  entries : List (String × Document) → List (String × Document)
    | [] => []
    | (name, d) :: es => (name, sortNames d) :: entries es

end Upkeep.Json
