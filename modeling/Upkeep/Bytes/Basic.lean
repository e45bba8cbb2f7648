/-!
File contents and stream data are lists of bytes. This module cuts them into blocks, reads
them as UTF-8 text (strictly, or with a replacement character for what is no text), and packs
texts into bytes.
-/

set_option autoImplicit false

namespace Upkeep

abbrev Bytes := List UInt8

namespace Bytes

def ofString (s : String) : Bytes := s.toUTF8.data.toList

/-- Consecutive blocks of `n + 1` elements; the last one may be shorter, none is empty. -/
def blocks {α : Type} (n : Nat) : List α → List (List α)
  | [] => []
  | a :: l => (a :: l.take n) :: blocks n (l.drop n)
termination_by l => l.length
decreasing_by
  rw [List.length_drop, List.length_cons]
  exact Nat.lt_succ_of_le (Nat.sub_le ..)

theorem flatten_blocks {α : Type} (n : Nat) (l : List α) : (blocks n l).flatten = l := by
  fun_induction blocks n l with
  | case1 => rfl
  | case2 a l ih => simp [ih]

/-- A character of which some bytes have been read: its bits so far, how many bytes are to come,
and the bounds on the next one. -/
structure Unfinished where
  bits : Nat
  left : Nat
  lo : UInt8 := 0x80
  hi : UInt8 := 0xbf

inductive Lead where
  | whole (c : Char)
  | part (u : Unfinished)
  | bad

/-- The second byte is bounded so that there are no overlong forms, no surrogates and nothing above
U+10FFFF. -/
def lead (b : UInt8) : Lead :=
  if b < 0x80 then .whole (Char.ofNat b.toNat)
  else if b < 0xc2 then .bad
  else if b < 0xe0 then .part { bits := b.toNat - 0xc0, left := 1 }
  else if b = 0xe0 then .part { bits := 0, left := 2, lo := 0xa0 }
  else if b = 0xed then .part { bits := 13, left := 2, hi := 0x9f }
  else if b < 0xf0 then .part { bits := b.toNat - 0xe0, left := 2 }
  else if b = 0xf0 then .part { bits := 0, left := 3, lo := 0x90 }
  else if b = 0xf4 then .part { bits := 4, left := 3, hi := 0x8f }
  else if b < 0xf4 then .part { bits := b.toNat - 0xf0, left := 3 }
  else .bad

/-- Reads the bytes that follow `u`; where they are no continuation, what was read counts as one
`none` and the byte at hand begins anew. -/
def charactersAfter : Option Unfinished → Bytes → List (Option Char)
  | none, [] => []
  | some _, [] => [none]
  | none, b :: rest =>
    match lead b with
    | .whole c => some c :: charactersAfter none rest
    | .part u => charactersAfter (some u) rest
    | .bad => none :: charactersAfter none rest
  | some u, b :: rest =>
    if u.lo ≤ b && b ≤ u.hi then
      let bits := u.bits * 64 + b.toNat % 64
      if u.left ≤ 1 then some (Char.ofNat bits) :: charactersAfter none rest
      else charactersAfter (some { bits := bits, left := u.left - 1 }) rest
    else
      match lead b with
      | .whole c => none :: some c :: charactersAfter none rest
      | .part v => none :: charactersAfter (some v) rest
      | .bad => none :: none :: charactersAfter none rest

def characters (bs : Bytes) : List (Option Char) := charactersAfter none bs

/-- The text that the bytes are, if they are UTF-8. -/
def text? (bs : Bytes) : Option String := ((characters bs).mapM id).map String.ofList

/-- The text with U+FFFD in place of what is not UTF-8. -/
def lossyText (bs : Bytes) : String :=
  String.ofList ((characters bs).map fun c => c.getD '\ufffd')

end Bytes

end Upkeep
