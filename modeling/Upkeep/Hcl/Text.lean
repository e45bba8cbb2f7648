import Upkeep.Document.Number

/-!
The literal parts of quoted texts in HCL: their escapes, and the two marks `$` and `%` that open a
template where a brace follows them and stand for themselves when they are doubled.
-/

set_option autoImplicit false

namespace Upkeep.Hcl

/-- A character by its number in so many hexadecimal digits. -/
def codePoint? (size : Nat) (cs : List Char) : Option (Char × List Char) :=
  let ds := cs.take size
  let n := Number.ofDigits 16 ds
  if ds.length = size && ds.all Number.isHexDigit && Nat.isValidChar n then
    some (Char.ofNat n, cs.drop size)
  else none

/-- The character of an escape, from the character after the backslash on. -/
def escape? : List Char → Option (Char × List Char)
  | 'n' :: rest => some ('\n', rest)
  | 'r' :: rest => some ('\r', rest)
  | 't' :: rest => some ('\t', rest)
  | '\\' :: rest => some ('\\', rest)
  | '\x22' :: rest => some ('\x22', rest)
  | '/' :: rest => some ('/', rest)
  | 'b' :: rest => some ('\x08', rest)
  | 'f' :: rest => some ('\x0c', rest)
  | 'u' :: rest => codePoint? 4 rest
  | 'U' :: rest => codePoint? 8 rest
  | _ => none

/-- The text that a literal part stands for. It ends before the first escape that is none. Each step
takes at least one character, so `n` is the length of the part. -/
def unescape : Nat → List Char → List Char
  | n + 1, '\\' :: rest =>
    match escape? rest with
    | some (c, rest) => c :: unescape n rest
    | none => []
  | n + 1, '$' :: '$' :: '\x7b' :: rest => '$' :: '\x7b' :: unescape n rest
  | n + 1, '%' :: '%' :: '\x7b' :: rest => '%' :: '\x7b' :: unescape n rest
  | n + 1, c :: rest => c :: unescape n rest
  | _, _ => []

/-- A text outside quotation marks, where a backslash is a plain character. -/
def unescapeMarks : List Char → List Char
  | '$' :: '$' :: '\x7b' :: rest => '$' :: '\x7b' :: unescapeMarks rest
  | '%' :: '%' :: '\x7b' :: rest => '%' :: '\x7b' :: unescapeMarks rest
  | c :: rest => c :: unescapeMarks rest
  | [] => []

/-- The literal part in front of a quotation mark or a template, as it is written. With `quoted` a
backslash takes the next character along. -/
def scanLiteral (quoted : Bool) : List Char → List Char × List Char
  | '$' :: '$' :: '\x7b' :: rest =>
    let (part, rest) := scanLiteral quoted rest
    ('$' :: '$' :: '\x7b' :: part, rest)
  | '%' :: '%' :: '\x7b' :: rest =>
    let (part, rest) := scanLiteral quoted rest
    ('%' :: '%' :: '\x7b' :: part, rest)
  | '$' :: '\x7b' :: rest => ([], '$' :: '\x7b' :: rest)
  | '%' :: '\x7b' :: rest => ([], '%' :: '\x7b' :: rest)
  | '\\' :: c :: rest =>
    if quoted then
      let (part, rest) := scanLiteral quoted rest
      ('\\' :: c :: part, rest)
    else
      let (part, rest) := scanLiteral quoted (c :: rest)
      ('\\' :: part, rest)
  | c :: rest =>
    if quoted && c = '\x22' then ([], c :: rest)
    else
      let (part, rest) := scanLiteral quoted rest
      (c :: part, rest)
  | [] => ([], [])

def escapeMarks : List Char → List Char
  | '$' :: '\x7b' :: rest => '$' :: '$' :: '\x7b' :: escapeMarks rest
  | '%' :: '\x7b' :: rest => '%' :: '%' :: '\x7b' :: escapeMarks rest
  | c :: rest => c :: escapeMarks rest
  | [] => []

def hexDigitChar (n : Nat) : Char := Char.ofNat (if n < 10 then 0x30 + n else 0x57 + n)

def escapeChar (c : Char) : List Char :=
  if c = '\x22' then ['\\', '\x22']
  else if c = '\\' then ['\\', '\\']
  else if c = '\n' then ['\\', 'n']
  else if c = '\r' then ['\\', 'r']
  else if c = '\t' then ['\\', 't']
  else if c = '\x08' then ['\\', 'b']
  else if c = '\x0c' then ['\\', 'f']
  else if c.toNat < 0x20 then
    ['\\', 'u', '0', '0', hexDigitChar (c.toNat / 16), hexDigitChar (c.toNat % 16)]
  else [c]

/-- A literal part as it stands inside quotation marks. -/
def escape (cs : List Char) : List Char := escapeMarks (cs.flatMap escapeChar)

def quote (cs : List Char) : List Char := '\x22' :: (escape cs ++ ['\x22'])

end Upkeep.Hcl
