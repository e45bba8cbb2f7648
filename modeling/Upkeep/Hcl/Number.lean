import Upkeep.Document.Basic
import Upkeep.Document.Number

/-!
Numbers of HCL. A number is a natural number of 64 bits, its negative, or a double with a fraction;
a double without a fraction counts as an integer and is cut off at the greatest one.
-/

set_option autoImplicit false

namespace Upkeep.Hcl

/-- The nearest number with at most 53 significant bits, of two the one with an even last bit. -/
def roundToDouble (n : Nat) : Nat :=
  if n < Nat.pow 2 53 then n
  else
    let unit := Nat.pow 2 (Nat.log2 n - 52)
    let low := n / unit
    let half := 2 * (n % unit)
    if half < unit ∨ (half = unit ∧ low % 2 = 0) then low * unit else (low + 1) * unit

def greatestCount : Nat := UInt64.size - 1

/-- A decimal number with its value: the digits before and after the point, and the exponent. -/
def decimal (whole part : List Char) (exponent : Int) : Option (List Char × Document) :=
  let mantissa := Number.ofDigits 10 (whole ++ part)
  let scale := exponent - part.length
  if !Number.isFinite mantissa scale then none
  else
    let divisor := Nat.pow 10 (-scale).toNat
    if mantissa * Nat.pow 10 scale.toNat % divisor = 0 then
      let n := min (roundToDouble (mantissa * Nat.pow 10 scale.toNat / divisor)) greatestCount
      some (Number.digits n, .int n)
    else
      let digits := (whole ++ part).dropWhile (· = '0')
      let places := (-scale).toNat
      let padded := List.replicate (places + 1 - digits.length) '0' ++ digits
      let written := padded.take (padded.length - places) ++ '.' ::
        (((padded.drop (padded.length - places)).reverse.dropWhile (· = '0')).reverse)
      some (written, .real (String.ofList written))

/-- A number without a sign off the front: how it is written and its value. -/
def readNumber (cs : List Char) : Option ((List Char × Document) × List Char) := do
  let (whole, rest) := cs.span Char.isDigit
  if whole.isEmpty then none
  let (part, rest) := match rest with
    | '.' :: rest' =>
      let (ds, rest'') := rest'.span Char.isDigit
      if ds.isEmpty then ([], rest) else (ds, rest'')
    | _ => ([], rest)
  let (exponent, rest) := exponentOf rest
  if part.isEmpty && exponent.isNone && Number.ofDigits 10 whole ≤ greatestCount then
    let n := Number.ofDigits 10 whole
    return ((Number.digits n, .int n), rest)
  else return (← decimal whole part (exponent.getD 0), rest)
where
  exponentOf (rest : List Char) : Option Int × List Char :=
    match rest with
    | e :: rest' =>
      if e = 'e' || e = 'E' then
        let (negative, ds) := match rest' with
          | '-' :: r => (true, r)
          | '+' :: r => (false, r)
          | r => (false, r)
        let (ds, rest'') := ds.span Char.isDigit
        if ds.isEmpty then (none, rest)
        else (some (Number.signed negative (Number.ofDigits 10 ds)), rest'')
      else (none, rest)
    | [] => (none, rest)

def negate : List Char × Document → List Char × Document
  | (written, .int i) => (if i = 0 then written else '-' :: written, .int (-i))
  | (written, _) => ('-' :: written, .real (String.ofList ('-' :: written)))

end Upkeep.Hcl
