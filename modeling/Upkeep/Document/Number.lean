/-!
Numbers as digits: decimal digits of a natural number and back, and the test whether a decimal
number is within the range of a binary double.
-/

set_option autoImplicit false

namespace Upkeep.Number

def digitChar (n : Nat) : Char := Char.ofNat (0x30 + n)

/-- The decimal digits of a number, without leading zeros. -/
def digits (n : Nat) : List Char :=
  if n < 10 then [digitChar n] else digits (n / 10) ++ [digitChar (n % 10)]

/-- The value of a digit in a base up to 36, of either case. -/
def digitValue (c : Char) : Nat :=
  if c.isDigit then c.toNat - 0x30
  else if c.isUpper then c.toNat - 0x37
  else c.toNat - 0x57

def isHexDigit (c : Char) : Bool :=
  c.isDigit || ('a' ≤ c && c ≤ 'f') || ('A' ≤ c && c ≤ 'F')

def ofDigits (base : Nat) (cs : List Char) : Nat :=
  cs.foldl (fun n c => base * n + digitValue c) 0

def signed (negative : Bool) (n : Nat) : Int := if negative then -(n : Int) else n

/-- The digits of an integer after its sign, if it has one. -/
def intDigits (i : Int) : List Char :=
  if i < 0 then '-' :: digits i.natAbs else digits i.natAbs

/-- The least number that rounds to infinity, half a unit above the greatest double. -/
def infinityBound : Nat := Nat.pow 2 1024 - Nat.pow 2 970

/-- Whether `mantissa * 10 ^ exponent` does not round to infinity. -/
def isFinite (mantissa : Nat) (exponent : Int) : Bool :=
  mantissa == 0 ||
    (let size : Int := (digits mantissa).length
     if 310 < size + exponent then false
     else if size + exponent < 300 then true
     else if 0 ≤ exponent then mantissa * Nat.pow 10 exponent.toNat < infinityBound
     else mantissa < infinityBound * Nat.pow 10 (-exponent).toNat)

end Upkeep.Number
