import Upkeep.Bytes.Basic

/-!
Base 64 with padding, read strictly: whole groups of four, padding only at the very end, and no
bits set beyond the last byte.
-/

set_option autoImplicit false

namespace Upkeep.Base64

def value? (b : UInt8) : Option Nat :=
  if 0x41 ≤ b && b ≤ 0x5a then some (b.toNat - 0x41)
  else if 0x61 ≤ b && b ≤ 0x7a then some (b.toNat - 0x61 + 26)
  else if 0x30 ≤ b && b ≤ 0x39 then some (b.toNat - 0x30 + 52)
  else if b = 0x2b then some 62
  else if b = 0x2f then some 63
  else none

def padding : UInt8 := 0x3d

/-- The last group may end in one or two padding characters. -/
def decodeLast (a b c d : UInt8) : Option Bytes := do
  let x ← value? a
  let y ← value? b
  if c = padding && d = padding then
    if y % 16 = 0 then some [UInt8.ofNat (4 * x + y / 16)] else none
  else
    let z ← value? c
    if d = padding then
      if z % 4 = 0 then
        some [UInt8.ofNat (4 * x + y / 16), UInt8.ofNat (y % 16 * 16 + z / 4)]
      else none
    else
      let w ← value? d
      some [UInt8.ofNat (4 * x + y / 16), UInt8.ofNat (y % 16 * 16 + z / 4),
        UInt8.ofNat (z % 4 * 64 + w)]

def decode : Bytes → Option Bytes
  | [] => some []
  | [a, b, c, d] => decodeLast a b c d
  | a :: b :: c :: d :: rest => do
    let _ ← value? c
    let _ ← value? d
    let head ← decodeLast a b c d
    let tail ← decode rest
    some (head ++ tail)
  | _ => none

end Upkeep.Base64
