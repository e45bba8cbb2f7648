import Upkeep.Bytes.Basic
import Upkeep.Text.Quoted

/-!
Hexadecimal digits: two per byte, lower case when written, either case when read.
-/

set_option autoImplicit false

namespace Upkeep.Hex

/-- Why a text is not a sequence of byte pairs. -/
inductive Error where
  | oddLength
  /-- The first byte that is no digit, with its place. -/
  | invalidDigit (byte : UInt8) (index : Nat)
  deriving DecidableEq, Repr

def Error.message : Error → String
  | .oddLength => "Odd number of digits"
  | .invalidDigit byte index =>
    "Invalid character " ++ Text.quotedChar (Char.ofNat byte.toNat) ++ " at position " ++
      toString index

def digit (n : Nat) : Char := Char.ofNat (if n < 10 then 0x30 + n else 0x57 + n)

def encodeChars (bs : Bytes) : List Char :=
  bs.flatMap fun b => [digit (b.toNat / 16), digit (b.toNat % 16)]

def encode (bs : Bytes) : String := String.ofList (encodeChars bs)

def value? (b : UInt8) : Option Nat :=
  if 0x30 ≤ b && b ≤ 0x39 then some (b.toNat - 0x30)
  else if 0x41 ≤ b && b ≤ 0x46 then some (b.toNat - 0x37)
  else if 0x61 ≤ b && b ≤ 0x66 then some (b.toNat - 0x57)
  else none

/-- Reads pairs of digits, of which the first stands at `index`. -/
def decodePairs (index : Nat) : Bytes → Except Error Bytes
  | [] => .ok []
  | [_] => .error .oddLength
  | a :: b :: rest =>
    match value? a, value? b with
    | none, _ => .error (.invalidDigit a index)
    | some _, none => .error (.invalidDigit b (index + 1))
    | some x, some y => (decodePairs (index + 2) rest).map (UInt8.ofNat (16 * x + y) :: ·)

/-- An odd length is reported before any character that is no digit. -/
def decode (s : String) : Except Error Bytes :=
  let bs := Bytes.ofString s
  if bs.length % 2 = 1 then .error .oddLength else decodePairs 0 bs

end Upkeep.Hex
