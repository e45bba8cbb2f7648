import Upkeep.Hcl.Body
import Upkeep.Hcl.Expression

/-!
Reading HCL text: attributes and blocks, each ended by the end of its line.
-/

set_option autoImplicit false

namespace Upkeep.Hcl

/-- The rest of a line that holds nothing more; the end of the text ends a line too. -/
def endLine? (cs : List Char) : Option (List Char) :=
  match skipLineComment (skip false cs) with
  | [] => some []
  | rest => newline? rest

/-- A quoted label after its opening mark; each step takes a character, so `n` is the length. -/
def scanLabel : Nat → List Char → Option (List Char × List Char)
  | n + 1, '\\' :: c :: rest => do
    let (part, rest) ← scanLabel n rest
    return ('\\' :: c :: part, rest)
  | n + 1, c :: rest =>
    if c = '\x22' then some ([], rest)
    else do
      let (part, rest) ← scanLabel n rest
      return (c :: part, rest)
  | _, _ => none

/-- The labels of a block and what follows its opening brace. -/
def readLabels : Nat → List Char → Option (List String × List Char)
  | 0, _ => none
  | n + 1, cs =>
    match skip false cs with
    | '\x7b' :: rest => some ([], rest)
    | '\x22' :: rest => do
      let (raw, rest) ← scanLabel rest.length rest
      let (labels, rest) ← readLabels n rest
      return (String.ofList (unescape raw.length raw) :: labels, rest)
    | cs => do
      let (name, rest) ← readName cs
      let (labels, rest) ← readLabels n rest
      return (String.ofList name :: labels, rest)

/-- The value of an attribute after its name, if an attribute it is. -/
def attributeValue? (cs : List Char) : Option (List Char) :=
  match skip false cs with
  | '=' :: rest => some rest
  | _ => none

def readValue (cs : List Char) : Option (Document × List Char) := do
  let (t, rest) ← readExpression (8 * cs.length + 8) false cs
  return (t.value, rest)

mutual

/-- The attributes and blocks of a body to the end of the text, or to the closing brace if it is
`inner`. Each takes at least one character, and a body one more. -/
def readBody : Nat → Bool → Body → List Char → Option (Document × List Char)
  | 0, _, _, _ => none
  | n + 1, inner, body, cs =>
    match skip true cs with
    | [] => if inner then none else some (body.toDocument, [])
    | '\x7d' :: rest => if inner then some (body.toDocument, rest) else none
    | cs => do
      let (name, rest) ← readName cs
      let name := String.ofList name
      match attributeValue? rest with
      | some rest => do
        let (d, rest) ← readValue rest
        readBody n inner (← body.addAttribute name d) (← endLine? rest)
      | none => do
        let (labels, rest) ← readLabels rest.length rest
        let (d, rest) ← readBlock n rest
        readBody n inner (body.addBlock name labels d) (← endLine? rest)

/-- A block after its opening brace: over several lines, or with at most one attribute on one. -/
def readBlock : Nat → List Char → Option (Document × List Char)
  | 0, _ => none
  | n + 1, cs =>
    match newline? (skipLineComment (skip false cs)) with
    | some rest => readBody n true {} rest
    | none =>
      match skip false cs with
      | '\x7d' :: rest => some (.table [], rest)
      | cs => do
        let (name, rest) ← readName cs
        let (d, rest) ← readValue (← attributeValue? rest)
        match skip false rest with
        | '\x7d' :: rest => some (.table [(String.ofList name, d)], rest)
        | _ => none

end

def read (s : String) : Option Document :=
  let cs := s.toList
  match readBody (2 * cs.length + 2) false {} cs with
  | some (d, _) => some d
  | none => none

end Upkeep.Hcl
