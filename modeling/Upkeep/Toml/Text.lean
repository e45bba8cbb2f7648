import Upkeep.Document.Number

/-!
Quoted texts of TOML: on one line or over several, with escapes or without.
-/

set_option autoImplicit false

namespace Upkeep.Toml

/-- Control characters other than the tab stand nowhere in a document. -/
def isPlain (c : Char) : Bool := c = '\t' || (0x20 ≤ c.toNat && c.toNat ≠ 0x7f)

def isSpace (c : Char) : Bool := c = ' ' || c = '\t'

def newline? : List Char → Option (List Char)
  | '\n' :: rest => some rest
  | '\r' :: '\n' :: rest => some rest
  | _ => none

/-- A character by its number in so many hexadecimal digits. -/
def codePoint? (size : Nat) (cs : List Char) : Option (Char × List Char) :=
  let ds := cs.take size
  let n := Number.ofDigits 16 ds
  if ds.length = size && ds.all Number.isHexDigit && Nat.isValidChar n then
    some (Char.ofNat n, cs.drop size)
  else none

/-- The character of an escape, from the character after the backslash on. -/
def escape? : List Char → Option (Char × List Char)
  | 'b' :: rest => some ('\x08', rest)
  | 't' :: rest => some ('\t', rest)
  | 'n' :: rest => some ('\n', rest)
  | 'f' :: rest => some ('\x0c', rest)
  | 'r' :: rest => some ('\r', rest)
  | 'e' :: rest => some ('\x1b', rest)
  | '\x22' :: rest => some ('\x22', rest)
  | '\\' :: rest => some ('\\', rest)
  | 'x' :: rest => codePoint? 2 rest
  | 'u' :: rest => codePoint? 4 rest
  | 'U' :: rest => codePoint? 8 rest
  | _ => none

/-- A text on one line up to its closing mark. Without `escapes` a backslash is a plain character.
Each step takes at least one character, so `n` is the length of the text. -/
def readLine (escapes : Bool) (mark : Char) : Nat → List Char → Option (List Char × List Char)
  | 0, _ => none
  | _, [] => none
  | n + 1, c :: rest =>
    if c = mark then some ([], rest)
    else if escapes && c = '\\' then do
      let (e, rest) ← escape? rest
      let (text, rest) ← readLine escapes mark n rest
      return (e :: text, rest)
    else if isPlain c then do
      let (text, rest) ← readLine escapes mark n rest
      return (c :: text, rest)
    else none

/-- Line ends and blanks after a backslash at the end of a line; none if it is not there. -/
def skipFold? (cs : List Char) : Option (List Char) := do
  let rest ← newline? (cs.dropWhile isSpace)
  return rest.dropWhile fun c => isSpace c || c = '\n' || c = '\r'

/-- A text over several lines up to the three marks that close it, before which two more belong to
the text. -/
def readBlock (escapes : Bool) (mark : Char) : Nat → List Char → Option (List Char × List Char)
  | 0, _ => none
  | _, [] => none
  | n + 1, c :: rest =>
    let marks := (c :: rest).takeWhile (· = mark)
    if 3 ≤ marks.length then
      let extra := min (marks.length - 3) 2
      some (List.replicate extra mark, rest.drop (extra + 2))
    else if escapes && c = '\\' then
      match skipFold? rest with
      | some rest => readBlock escapes mark n rest
      | none => do
        let (e, rest) ← escape? rest
        let (text, rest) ← readBlock escapes mark n rest
        return (e :: text, rest)
    else
      match newline? (c :: rest) with
      | some rest' => do
        let (text, rest'') ← readBlock escapes mark n rest'
        return ((c :: rest).take (rest.length + 1 - rest'.length) ++ text, rest'')
      | none =>
        if isPlain c then do
          let (text, rest) ← readBlock escapes mark n rest
          return (c :: text, rest)
        else none

/-- A text on one line, from its opening mark on. -/
def readQuoted : List Char → Option (List Char × List Char)
  | '\x22' :: rest => readLine true '\x22' rest.length rest
  | '\x27' :: rest => readLine false '\x27' rest.length rest
  | _ => none

/-- Any quoted text. A line end right after three opening marks is dropped. -/
def readText (cs : List Char) : Option (List Char × List Char) :=
  match cs with
  | '\x22' :: '\x22' :: '\x22' :: rest => block true '\x22' rest
  | '\x27' :: '\x27' :: '\x27' :: rest => block false '\x27' rest
  | _ => readQuoted cs
where
  block (escapes : Bool) (mark : Char) (rest : List Char) : Option (List Char × List Char) :=
    let rest := (newline? rest).getD rest
    readBlock escapes mark rest.length rest

end Upkeep.Toml
