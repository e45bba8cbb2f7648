import Upkeep.Document.Basic
import Upkeep.Document.Number

/-!
Reading JSON text. The reader takes values off the front of a list of characters and returns what
is left; it accepts exactly one value, with blanks around it. A string whose escapes name half of a
surrogate pair is correct JSON without a value, so it reads as `Document.unreadable`, and so does a
number beyond the range of doubles.
-/

set_option autoImplicit false

namespace Upkeep.Json

def isBlank (c : Char) : Bool := c = ' ' || c = '\n' || c = '\t' || c = '\r'

def skipBlanks (cs : List Char) : List Char := cs.dropWhile isBlank

/-- A part of a string: a character, or the sixteen bits that an escape gives by number. -/
inductive Piece where
  | char (c : Char)
  | code (n : Nat)

def hexCode? (a b c d : Char) : Option Nat :=
  if [a, b, c, d].all Number.isHexDigit then some (Number.ofDigits 16 [a, b, c, d]) else none

/-- The character that a one-letter escape stands for. -/
def escaped? (c : Char) : Option Char :=
  if c = '\x22' || c = '\\' || c = '/' then some c
  else if c = 'b' then some '\x08'
  else if c = 'f' then some '\x0c'
  else if c = 'n' then some '\n'
  else if c = 'r' then some '\r'
  else if c = 't' then some '\t'
  else none

/-- The parts of a string up to its closing mark, and what follows it. -/
def scanString : List Char → Option (List Piece × List Char)
  | [] => none
  | '\x22' :: rest => some ([], rest)
  | '\\' :: 'u' :: a :: b :: c :: d :: rest =>
    match hexCode? a b c d, scanString rest with
    | some n, some (pieces, rest') => some (.code n :: pieces, rest')
    | _, _ => none
  | '\\' :: e :: rest =>
    match escaped? e, scanString rest with
    | some c, some (pieces, rest') => some (.char c :: pieces, rest')
    | _, _ => none
  | c :: rest =>
    if c.toNat < 0x20 || c = '\\' then none
    else match scanString rest with
      | some (pieces, rest') => some (.char c :: pieces, rest')
      | none => none

def isHighSurrogate (n : Nat) : Bool := 0xd800 ≤ n && n < 0xdc00

def isLowSurrogate (n : Nat) : Bool := 0xdc00 ≤ n && n < 0xe000

/-- The characters of a string; a high surrogate takes the low one that must follow it. -/
def joinPieces : List Piece → Option (List Char)
  | [] => some []
  | .char c :: rest => (joinPieces rest).map (c :: ·)
  | .code n :: rest =>
    if isLowSurrogate n then none
    else if isHighSurrogate n then
      match rest with
      | .code m :: rest' =>
        if isLowSurrogate m then
          (joinPieces rest').map
            (Char.ofNat (0x10000 + (n - 0xd800) * 0x400 + (m - 0xdc00)) :: ·)
        else none
      | _ => none
    else (joinPieces rest).map (Char.ofNat n :: ·)

/-- A string after its opening mark: its text, if it has one, and the rest. -/
def readString (cs : List Char) : Option (Option String × List Char) :=
  match scanString cs with
  | some (pieces, rest) => some ((joinPieces pieces).map String.ofList, rest)
  | none => none

/-- The fraction after an integer part: its digits, none if there is no point. -/
def readFraction (cs : List Char) : Option (List Char × List Char) :=
  match cs with
  | '.' :: rest =>
    let (ds, rest') := rest.span Char.isDigit
    if ds.isEmpty then none else some (ds, rest')
  | _ => some ([], cs)

def readExponent (cs : List Char) : Option (Option Int × List Char) :=
  match cs with
  | e :: rest =>
    if e = 'e' || e = 'E' then
      let (negative, rest) := match rest with
        | '-' :: r => (true, r)
        | '+' :: r => (false, r)
        | r => (false, r)
      let (ds, rest') := rest.span Char.isDigit
      if ds.isEmpty then none else some (some (Number.signed negative (Number.ofDigits 10 ds)), rest')
    else some (none, cs)
  | [] => some (none, cs)

/-- A whole number is an integer of 64 bits, signed or not, and a real number beyond them. The
negative zero is a real number. -/
def wholeNumber (negative : Bool) (ds : List Char) : Document :=
  let n := Number.ofDigits 10 ds
  let written := (if negative then ['-'] else []) ++ ds
  if negative && (n == 0 || decide (UInt64.size / 2 < n)) then realNumber n 0 written
  else if decide (UInt64.size ≤ n) then realNumber n 0 written
  else .int (Number.signed negative n)
where
  realNumber (mantissa : Nat) (exponent : Int) (written : List Char) : Document :=
    if Number.isFinite mantissa exponent then .real (String.ofList written) else .unreadable

def readNumber (negative : Bool) (cs : List Char) : Option (Document × List Char) := do
  let (ds, rest) := cs.span Char.isDigit
  if ds.isEmpty || (ds.head? = some '0' && 1 < ds.length) then none
  else
    let (fs, rest) ← readFraction rest
    let (exponent, rest) ← readExponent rest
    if fs.isEmpty && exponent.isNone then some (wholeNumber negative ds, rest)
    else
      let written := (if negative then ['-'] else []) ++ cs.take (cs.length - rest.length)
      let mantissa := Number.ofDigits 10 (ds ++ fs)
      some (wholeNumber.realNumber mantissa (exponent.getD 0 - fs.length) written, rest)

def tableOf (entries : List (Option String × Document)) : Document :=
  match entries.mapM fun e => e.1.map (·, e.2) with
  | some es => .table es
  | none => .unreadable

mutual

/-- A value off the front; `n` bounds the work. -/
def readValue : Nat → List Char → Option (Document × List Char)
  | 0, _ => none
  | n + 1, cs =>
    match skipBlanks cs with
    | '\x22' :: rest =>
      match readString rest with
      | some (some s, rest) => some (.text s, rest)
      | some (none, rest) => some (.unreadable, rest)
      | none => none
    | '[' :: rest =>
      match skipBlanks rest with
      | ']' :: rest => some (.list [], rest)
      | rest =>
        match readValue n rest with
        | some (d, rest) =>
          match readItems n rest with
          | some (ds, rest) => some (.list (d :: ds), rest)
          | none => none
        | none => none
    | '\x7b' :: rest =>
      match skipBlanks rest with
      | '\x7d' :: rest => some (.table [], rest)
      | rest =>
        match readEntry n rest with
        | some (e, rest) =>
          match readEntries n rest with
          | some (es, rest) => some (tableOf (e :: es), rest)
          | none => none
        | none => none
    | '-' :: rest => readNumber true rest
    | 't' :: 'r' :: 'u' :: 'e' :: rest => some (.bool true, rest)
    | 'f' :: 'a' :: 'l' :: 's' :: 'e' :: rest => some (.bool false, rest)
    | 'n' :: 'u' :: 'l' :: 'l' :: rest => some (.null, rest)
    | rest => readNumber false rest

/-- The items after the first, up to the closing bracket. -/
def readItems : Nat → List Char → Option (List Document × List Char)
  | 0, _ => none
  | n + 1, cs =>
    match skipBlanks cs with
    | ']' :: rest => some ([], rest)
    | ',' :: rest =>
      match readValue n rest with
      | some (d, rest) =>
        match readItems n rest with
        | some (ds, rest) => some (d :: ds, rest)
        | none => none
      | none => none
    | _ => none

def readEntry : Nat → List Char → Option ((Option String × Document) × List Char)
  | 0, _ => none
  | n + 1, cs =>
    match skipBlanks cs with
    | '\x22' :: rest =>
      match readString rest with
      | some (name, rest) =>
        match skipBlanks rest with
        | ':' :: rest =>
          match readValue n rest with
          | some (d, rest) => some ((name, d), rest)
          | none => none
        | _ => none
      | none => none
    | _ => none

/-- The entries after the first, up to the closing brace. -/
def readEntries : Nat → List Char → Option (List (Option String × Document) × List Char)
  | 0, _ => none
  | n + 1, cs =>
    match skipBlanks cs with
    | '\x7d' :: rest => some ([], rest)
    | ',' :: rest =>
      match readEntry n rest with
      | some (e, rest) =>
        match readEntries n rest with
        | some (es, rest) => some (e :: es, rest)
        | none => none
      | none => none
    | _ => none

end

/-- The one value that a text holds. Each step of the reader but one per value takes a character
off, so twice the length is work enough. -/
def read (s : String) : Option Document :=
  let cs := s.toList
  match readValue (2 * cs.length + 2) cs with
  | some (d, rest) => if (skipBlanks rest).isEmpty then some d else none
  | none => none

end Upkeep.Json
