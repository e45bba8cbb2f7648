import Upkeep.Bytes.Basic

/-!
The outermost element of the keys that are written in the distinguished encoding of ASN.1: one
sequence, of which only the extent is looked at.
-/

set_option autoImplicit false

namespace Upkeep.Key

def maxElementLength : Nat := 0xfffffff

def bigEndian (bs : Bytes) : Nat := bs.foldl (fun n b => n * 256 + b.toNat) 0

/-- A length and what follows it. Short lengths are one byte, longer ones as few bytes as they need
after one that counts them. -/
def elementLength? : Bytes → Option (Nat × Bytes)
  | [] => none
  | b :: rest =>
    if b < 0x80 then some (b.toNat, rest)
    else
      let count := b.toNat - 0x80
      let n := bigEndian (rest.take count)
      if 1 ≤ count ∧ count ≤ 4 ∧ count ≤ rest.length ∧ 0x80 ≤ n ∧ Nat.pow 256 (count - 1) ≤ n ∧
          n ≤ maxElementLength then
        some (n, rest.drop count)
      else none

/-- Whether bytes are one sequence and nothing else. -/
def isSequence : Bytes → Bool
  | 0x30 :: rest =>
    match elementLength? rest with
    | some (n, content) => content.length == n
    | none => false
  | _ => false

end Upkeep.Key
