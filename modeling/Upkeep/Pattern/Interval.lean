import Upkeep.Bytes.Basic

/-!
How often something is to be repeated, as it is written between braces. Braces with anything else in
them stand for themselves.
-/

set_option autoImplicit false

namespace Upkeep.Pattern

def maxTimes : Nat := 32767

inductive Count where
  /-- No digits at all. -/
  | missing
  | number (n : Nat)
  /-- Not a number. -/
  | other
  deriving DecidableEq, Repr

inductive CountEnd where
  | comma
  | brace
  | nothing
  deriving DecidableEq, Repr

/-- A count with one digit more; beyond what is allowed, they are all alike. -/
def Count.push (b : UInt8) : Count → Count
  | .other => .other
  | c =>
    if 0x30 ≤ b && b ≤ 0x39 then
      let before := match c with
        | .number n => n
        | _ => 0
      .number (min (maxTimes + 1) (before * 10 + (b.toNat - 0x30)))
    else .other

def readCount (c : Count) : Bytes → Count × CountEnd × Bytes
  | [] => (.other, .nothing, [])
  | [b] =>
    if b = 0x2c then (c, .comma, [])
    else if b = 0x7d then (c, .brace, [])
    else (.other, .nothing, [])
  | b :: b' :: rest =>
    if b = 0x2c then (c, .comma, b' :: rest)
    else if b = 0x7d then (c, .brace, b' :: rest)
    else if b = 0x5c then readCount .other rest
    else readCount (c.push b) (b' :: rest)

inductive Interval where
  | times (least : Nat) (most : Option Nat) (rest : Bytes)
  /-- No interval; the brace stands for itself. -/
  | literal
  /-- Something like an interval, without an end or with its numbers in the wrong order. -/
  | improper

def interval (least : Nat) (most : Option Nat) (ended : CountEnd) (rest : Bytes) : Interval :=
  if ended ≠ .brace || most.any (· < least) then .improper else .times least most rest

/-- Reads an interval, of which the opening brace has been read. Before a comma, zero may be left
out. -/
def readInterval (bs : Bytes) : Interval :=
  match readCount .missing bs with
  | (.other, _, _) => .literal
  | (.missing, .comma, rest) => upTo 0 rest
  | (.missing, _, _) => .improper
  | (.number n, .comma, rest) => upTo n rest
  | (.number n, _, rest) => interval n (some n) .brace rest
where
  /-- What follows the comma. -/
  upTo (least : Nat) (bs : Bytes) : Interval :=
    match readCount .missing bs with
    | (.other, _, _) => .literal
    | (.missing, ended, rest) => interval least none ended rest
    | (.number n, ended, rest) => interval least (some n) ended rest

end Upkeep.Pattern
