import Upkeep.Document.Basic
import Upkeep.Document.Number

/-!
Numbers, words and dates of TOML. Each is one run of characters, which is classified as a whole.
-/

set_option autoImplicit false

namespace Upkeep.Toml

/-- The characters of values that are not quoted. -/
def isScalarChar (c : Char) : Bool :=
  c.isAlphanum || c = '_' || c = '+' || c = '-' || c = '.' || c = ':'

/-- The digits of a number in which single underscores may stand between two digits. -/
def digitsBetween? (isDigit : Char → Bool) : List Char → Option (List Char)
  | [] => none
  | [c] => if isDigit c then some [c] else none
  | c :: '_' :: rest => if isDigit c then (digitsBetween? isDigit rest).map (c :: ·) else none
  | c :: rest => if isDigit c then (digitsBetween? isDigit rest).map (c :: ·) else none

def decimalDigits? (cs : List Char) : Option (List Char) := digitsBetween? Char.isDigit cs

/-- Digits without a leading zero, unless zero is all there is. -/
def leadingDigits? (cs : List Char) : Option (List Char) := do
  let ds ← decimalDigits? cs
  if ds.head? = some '0' && 1 < ds.length then none else some ds

/-- An integer of at most 128 bits. -/
def bounded? (i : Int) : Option Document :=
  if -(Nat.pow 2 127 : Int) ≤ i ∧ i < Nat.pow 2 128 then some (.int i) else none

def isOctalDigit (c : Char) : Bool := '0' ≤ c && c ≤ '7'

def isBinaryDigit (c : Char) : Bool := c = '0' || c = '1'

/-- A number without its sign, and whether a sign stood there and which. -/
def signed? : List Char → Option Bool × List Char
  | '+' :: rest => (some false, rest)
  | '-' :: rest => (some true, rest)
  | rest => (none, rest)

def integer? (cs : List Char) : Option Document :=
  match cs with
  | '0' :: 'x' :: rest => do
    bounded? (Number.ofDigits 16 (← digitsBetween? Number.isHexDigit rest))
  | '0' :: 'o' :: rest => do bounded? (Number.ofDigits 8 (← digitsBetween? isOctalDigit rest))
  | '0' :: 'b' :: rest => do bounded? (Number.ofDigits 2 (← digitsBetween? isBinaryDigit rest))
  | _ => do
    let (sign, rest) := signed? cs
    bounded? (Number.signed (sign.getD false) (Number.ofDigits 10 (← leadingDigits? rest)))

def isMantissaChar (c : Char) : Bool := c.isDigit || c = '_'

/-- The fraction of a number from its point on; none is an empty one. -/
def fraction? : List Char → Option (List Char × List Char)
  | '.' :: rest => do
    let (ds, rest) := rest.span isMantissaChar
    return (← decimalDigits? ds, rest)
  | rest => some ([], rest)

def exponent? : List Char → Option Int
  | [] => some 0
  | e :: rest =>
    if e = 'e' || e = 'E' then do
      let (sign, rest) := signed? rest
      return Number.signed (sign.getD false) (Number.ofDigits 10 (← decimalDigits? rest))
    else none

/-- A number with a fraction or an exponent, within the range of doubles, or one of the words for
what is no finite number. -/
def real? (cs : List Char) : Option Document := do
  let (_, rest) := signed? cs
  if rest = ['i', 'n', 'f'] || rest = ['n', 'a', 'n'] then return .real (String.ofList cs)
  let (whole, rest) := rest.span isMantissaChar
  let whole ← leadingDigits? whole
  if rest.isEmpty then none
  let (part, rest) ← fraction? rest
  let exponent ← exponent? rest
  if Number.isFinite (Number.ofDigits 10 (whole ++ part)) (exponent - part.length) then
    return .real (String.ofList cs)
  else none

def twoDigits? : List Char → Option (Nat × List Char)
  | a :: b :: rest =>
    if a.isDigit && b.isDigit then some (Number.ofDigits 10 [a, b], rest) else none
  | _ => none

def isLeapYear (year : Nat) : Bool := year % 4 == 0 && (year % 100 != 0 || year % 400 == 0)

def daysInMonth (year month : Nat) : Nat :=
  if month = 2 then if isLeapYear year then 29 else 28
  else if month = 4 || month = 6 || month = 9 || month = 11 then 30
  else 31

def date? (cs : List Char) : Option (List Char) := do
  let (century, rest) ← twoDigits? cs
  let (year, rest) ← twoDigits? rest
  match rest with
  | '-' :: rest => do
    let (month, rest) ← twoDigits? rest
    match rest with
    | '-' :: rest => do
      let (day, rest) ← twoDigits? rest
      if 1 ≤ month && month ≤ 12 && 1 ≤ day && day ≤ daysInMonth (100 * century + year) month then
        some rest
      else none
    | _ => none
  | _ => none

def hourMinute? (cs : List Char) : Option (List Char) := do
  let (hour, rest) ← twoDigits? cs
  match rest with
  | ':' :: rest => do
    let (minute, rest) ← twoDigits? rest
    if hour ≤ 23 && minute ≤ 59 then some rest else none
  | _ => none

/-- A time off the front. The seconds and their fraction may be missing. -/
def time? (cs : List Char) : Option (List Char) := do
  match ← hourMinute? cs with
  | ':' :: rest => do
    let (second, rest) ← twoDigits? rest
    if 60 < second then none
    else match rest with
      | '.' :: rest =>
        let (ds, rest) := rest.span Char.isDigit
        if ds.isEmpty then none else some rest
      | rest => some rest
  | rest => some rest

/-- The distance to universal time, or nothing. -/
def isOffset : List Char → Bool
  | [] => true
  | [z] => z = 'Z' || z = 'z'
  | c :: rest => (c = '+' || c = '-') && hourMinute? rest == some []

def isDateTime (cs : List Char) : Bool :=
  match date? cs with
  | some [] => true
  | some (t :: rest) => (t = 'T' || t = 't' || t = ' ') && ((time? rest).map isOffset).getD false
  | none => time? cs == some []

/-- A date or time is a table with one entry, its text. -/
def dateTime? (cs : List Char) : Option Document :=
  if isDateTime cs then
    some (.table [("$__toml_private_datetime", .text (String.ofList cs))])
  else none

def scalar? (cs : List Char) : Option Document :=
  if cs = ['t', 'r', 'u', 'e'] then some (.bool true)
  else if cs = ['f', 'a', 'l', 's', 'e'] then some (.bool false)
  else (integer? cs).or ((dateTime? cs).or (real? cs))

/-- A value that is not quoted, off the front. A date may be followed by a blank and a time. -/
def readScalar (cs : List Char) : Option (Document × List Char) := do
  let (word, rest) := cs.span isScalarChar
  match rest with
  | ' ' :: d :: rest' =>
    if d.isDigit && date? word == some [] then
      let (time, rest'') := (d :: rest').span isScalarChar
      return (← scalar? (word ++ ' ' :: time), rest'')
    else return (← scalar? word, rest)
  | _ => return (← scalar? word, rest)

end Upkeep.Toml
