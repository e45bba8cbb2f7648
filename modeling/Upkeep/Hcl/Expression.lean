import Upkeep.Hcl.Number
import Upkeep.Hcl.Text
import Upkeep.Text.Identifier

/-!
Reading HCL expressions. An expression is read into the text that it is written as, in one fixed
layout, and its value. Literals, lists and objects have a value of their own; the value of any
other expression is its text, as a template in which it is the only part.
-/

set_option autoImplicit false

namespace Upkeep.Hcl

structure Term where
  written : List Char
  value : Document

namespace Term

/-- The text of a template with one expression. -/
def interpolation (written : List Char) : List Char := '$' :: '\x7b' :: (written ++ ['\x7d'])

def literal (written : List Char) (d : Document) : Term :=
  ⟨written, .expression (String.ofList (interpolation written)) d⟩

def computed (written : List Char) : Term :=
  ⟨written, .text (String.ofList (interpolation written))⟩

def text (cs : List Char) : Term := ⟨quote cs, .text (String.ofList cs)⟩

def number (n : List Char × Document) : Term := literal n.1 n.2

/-- Texts with a comma and a blank between two. -/
def commaSeparated : List (List Char) → List Char
  | [] => []
  | [a] => a
  | a :: rest => a ++ ',' :: ' ' :: commaSeparated rest

def list (items : List Term) : Term :=
  literal ('[' :: (commaSeparated (items.map (·.written)) ++ [']'])) (.list (items.map (·.value)))

/-- An object from its keys, as they are written and as names, and their values. -/
def object (entries : List (List Char × String × Term)) : Term :=
  let inner := commaSeparated (entries.map fun (key, _, t) => key ++ ' ' :: '=' :: ' ' :: t.written)
  let written := if entries.isEmpty then ['\x7b', '\x7d']
    else '\x7b' :: ' ' :: (inner ++ [' ', '\x7d'])
  literal written (.table (entries.foldl (fun es (_, name, t) => put name t.value es) []))
where
  /-- A later value of a name takes the place of an earlier one. -/
  put (name : String) (d : Document) : List (String × Document) → List (String × Document)
    | [] => [(name, d)]
    | e :: es => if e.1 = name then (name, d) :: es else e :: put name d es

end Term

def isSpace (c : Char) : Bool := c = ' ' || c = '\t'

/-- What follows a comment between `/*` and `*/`. -/
def afterComment? : List Char → Option (List Char)
  | '*' :: '/' :: rest => some rest
  | _ :: rest => afterComment? rest
  | [] => none

/-- Blanks and comments on one line. Each step takes at least one character, so `n` is the length of
the text. -/
def skipSpace : Nat → List Char → List Char
  | n + 1, c :: rest =>
    if isSpace c then skipSpace n rest
    else match c, rest with
      | '/', '*' :: rest' =>
        match afterComment? rest' with
        | some rest'' => skipSpace n rest''
        | none => c :: rest
      | _, _ => c :: rest
  | _, cs => cs

/-- A comment up to the end of its line, or nothing. -/
def skipLineComment (cs : List Char) : List Char :=
  match cs with
  | '\x23' :: rest => rest.dropWhile (· ≠ '\n')
  | '/' :: '/' :: rest => rest.dropWhile (· ≠ '\n')
  | _ => cs

def newline? : List Char → Option (List Char)
  | '\n' :: rest => some rest
  | '\r' :: '\n' :: rest => some rest
  | _ => none

def skipLines : Nat → List Char → List Char
  | n + 1, cs =>
    let cs := skipLineComment (skipSpace cs.length cs)
    match newline? cs with
    | some rest => skipLines n rest
    | none => cs
  | 0, cs => cs

/-- What may stand between two parts of an expression: blanks, and within brackets lines too. -/
def skip (lines : Bool) (cs : List Char) : List Char :=
  if lines then skipLines cs.length cs else skipSpace cs.length cs

def isNameChar (c : Char) : Bool := Text.isIdentifierContinue c || c = '-'

def readName : List Char → Option (List Char × List Char)
  | c :: rest =>
    if Text.isIdentifierStart c || c = '_' then
      let (name, rest) := rest.span isNameChar
      some (c :: name, rest)
    else none
  | [] => none

/-- The word `w` off the front, unless an identifier goes on after it. -/
def word? (w : String) (cs : List Char) : Option (List Char) :=
  match readName cs with
  | some (name, rest) => if name = w.toList then some rest else none
  | none => none

def operator? : List Char → Option (List Char × List Char)
  | '=' :: '=' :: rest => some (['=', '='], rest)
  | '!' :: '=' :: rest => some (['!', '='], rest)
  | '<' :: '=' :: rest => some (['<', '='], rest)
  | '>' :: '=' :: rest => some (['>', '='], rest)
  | '<' :: rest => some (['<'], rest)
  | '>' :: rest => some (['>'], rest)
  | '&' :: '&' :: rest => some (['&', '&'], rest)
  | '|' :: '|' :: rest => some (['|', '|'], rest)
  | '+' :: rest => some (['+'], rest)
  | '-' :: rest => some (['-'], rest)
  | '*' :: rest => some (['*'], rest)
  | '/' :: '/' :: _ => none
  | '/' :: rest => some (['/'], rest)
  | '%' :: rest => some (['%'], rest)
  | _ => none

/-- A part of a template: the text it stands for in the value, and in the written form. -/
structure TemplatePart where
  text : List Char
  written : List Char

/-- The parts put together; without a template in it the text is a literal. -/
def templateTerm (parts : List TemplatePart) (isLiteral : Bool) : Term :=
  if isLiteral then Term.text (parts.flatMap (·.text))
  else
    ⟨'\x22' :: (parts.flatMap (·.written) ++ ['\x22']),
      .text (String.ofList (parts.flatMap (·.text)))⟩

/-- What a template directive leaves open, and may close. -/
inductive Opened where
  | condition
  | alternative
  | loop
  deriving DecidableEq

/-- The lines of a text that ends with a line which holds only `mark`, and what follows that. -/
def heredocLines (mark : List Char) : Nat → List Char → Option (List (List Char) × List Char)
  | 0, _ => none
  | n + 1, cs =>
    let (line, rest) := cs.span (· ≠ '\n')
    let bare := if line.getLast? = some '\r' then line.dropLast else line
    if bare.dropWhile isSpace = mark then
      some ([], (if line.getLast? = some '\r' then ['\r'] else []) ++ rest)
    else match rest with
      | _ :: rest => do
        let (lines, rest) ← heredocLines mark n rest
        return (line :: lines, rest)
      | [] => none

/-- The lines without the blanks that all of them begin with. -/
def dedent (lines : List (List Char)) : List (List Char) :=
  let depths := (lines.filter fun l => !l.all isSpace).map fun l => (l.takeWhile isSpace).length
  lines.map (·.drop (depths.min?.getD 0))

mutual

/-- An expression off the front; `n` bounds the work. With `lines` it may go on over line ends. -/
def readExpression : Nat → Bool → List Char → Option (Term × List Char)
  | 0, _, _ => none
  | n + 1, lines, cs => do
    let (first, rest) ← readOperand n lines (skip lines cs)
    let (t, rest) ← readOperators n lines first rest
    match skip lines rest with
    | '?' :: rest => do
      let (yes, rest) ← readExpression n lines rest
      match skip lines rest with
      | ':' :: rest => do
        let (no, rest) ← readExpression n lines rest
        return (Term.computed (t.written ++ ' ' :: '?' :: ' ' :: yes.written ++
          ' ' :: ':' :: ' ' :: no.written), rest)
      | _ => none
    | _ => return (t, rest)

/-- The operators and operands after the first operand. -/
def readOperators : Nat → Bool → Term → List Char → Option (Term × List Char)
  | 0, _, _, _ => none
  | n + 1, lines, left, cs =>
    match operator? (skip lines cs) with
    | some (op, rest) => do
      let (right, rest) ← readOperand n lines (skip lines rest)
      readOperators n lines
        (Term.computed (left.written ++ ' ' :: op ++ ' ' :: right.written)) rest
    | none => some (left, cs)

/-- An operand with its sign. The negative of a number is a number. -/
def readOperand : Nat → Bool → List Char → Option (Term × List Char)
  | 0, _, _ => none
  | n + 1, lines, cs =>
    match cs with
    | '!' :: rest => do
      let (t, rest) ← readOperand n lines (skip lines rest)
      return (Term.computed ('!' :: t.written), rest)
    | '-' :: rest =>
      let inner := skip lines rest
      match readNumber inner with
      | some (number, rest) => readPostfix n lines (Term.number (negate number)) rest
      | none => do
        let (t, rest) ← readOperand n lines inner
        return (Term.computed ('-' :: t.written), rest)
    | _ => do
      let (t, rest) ← readPrimary n cs
      readPostfix n lines t rest

/-- The selections after an operand; two points in a row are none. -/
def readPostfix : Nat → Bool → Term → List Char → Option (Term × List Char)
  | 0, _, _, _ => none
  | n + 1, lines, t, cs =>
    match skip lines cs with
    | '.' :: '.' :: _ => some (t, cs)
    | '.' :: '*' :: rest => readPostfix n lines (Term.computed (t.written ++ ['.', '*'])) rest
    | '.' :: rest =>
      let (index, rest') := rest.span Char.isDigit
      if !index.isEmpty then
        readPostfix n lines (Term.computed (t.written ++ '.' :: index)) rest'
      else match readName rest with
        | some (name, rest) => readPostfix n lines (Term.computed (t.written ++ '.' :: name)) rest
        | none => none
    | '[' :: '*' :: ']' :: rest =>
      readPostfix n lines (Term.computed (t.written ++ ['[', '*', ']'])) rest
    | '[' :: rest => do
      let (index, rest) ← readExpression n true rest
      match skip true rest with
      | ']' :: rest =>
        readPostfix n lines (Term.computed (t.written ++ '[' :: index.written ++ [']'])) rest
      | _ => none
    | _ => some (t, cs)

def readPrimary : Nat → List Char → Option (Term × List Char)
  | 0, _ => none
  | n + 1, cs =>
    match cs with
    | '\x22' :: rest => readTemplate n true [] true [] rest
    | '[' :: rest =>
      match word? "for" (skip true rest) with
      | some rest => readLoop n '[' rest
      | none => do
        let (items, rest) ← readItems n ']' (skip true rest)
        return (Term.list items, rest)
    | '\x7b' :: rest =>
      match word? "for" (skip true rest) with
      | some rest' => readLoop n '\x7b' rest'
      | none => do
        let (entries, rest) ← readEntries n (skip true rest)
        return (Term.object entries, rest)
    | '(' :: rest => do
      let (t, rest) ← readExpression n true rest
      match skip true rest with
      | ')' :: rest => return (Term.computed ('(' :: (t.written ++ [')'])), rest)
      | _ => none
    | '<' :: '<' :: '-' :: rest => readHeredoc n true rest
    | '<' :: '<' :: rest => readHeredoc n false rest
    | _ =>
      match readName cs with
      | some (name, rest) =>
        match rest with
        | ':' :: ':' :: rest => readQualified n (name ++ [':', ':']) rest
        | '(' :: rest => readCall n name rest
        | _ =>
          if name = ['n', 'u', 'l', 'l'] then some (Term.literal name .null, rest)
          else if name = ['t', 'r', 'u', 'e'] then some (Term.literal name (.bool true), rest)
          else if name = ['f', 'a', 'l', 's', 'e'] then some (Term.literal name (.bool false), rest)
          else some (Term.computed name, rest)
      | none => (readNumber cs).map fun (number, rest) => (Term.number number, rest)

/-- The call of a function in a name space, after the name of the space and the colons. -/
def readQualified : Nat → List Char → List Char → Option (Term × List Char)
  | 0, _, _ => none
  | n + 1, space, cs => do
    let (name, rest) ← readName cs
    match rest with
    | ':' :: ':' :: rest => readQualified n (space ++ name ++ [':', ':']) rest
    | '(' :: rest => readCall n (space ++ name) rest
    | _ => none

/-- The call of a function, after the opening parenthesis. -/
def readCall : Nat → List Char → List Char → Option (Term × List Char)
  | 0, _, _ => none
  | n + 1, name, cs => do
    let (arguments, rest) ← readArguments n (skip true cs)
    return (Term.computed (name ++ '(' :: (arguments ++ [')'])), rest)

/-- Items between commas up to the closing bracket. -/
def readItems : Nat → Char → List Char → Option (List Term × List Char)
  | 0, _, _ => none
  | _, _, [] => none
  | n + 1, close, c :: rest =>
    if c = close then some ([], rest)
    else do
      let (t, rest) ← readExpression n true (c :: rest)
      match skip true rest with
      | ',' :: rest => do
        let (ts, rest) ← readItems n close (skip true rest)
        return (t :: ts, rest)
      | c :: rest => if c = close then some ([t], rest) else none
      | [] => none

/-- The arguments of a call, of which the last may be expanded. -/
def readArguments : Nat → List Char → Option (List Char × List Char)
  | 0, _ => none
  | n + 1, cs =>
    match cs with
    | ')' :: rest => some ([], rest)
    | _ => do
      let (t, rest) ← readExpression n true cs
      match skip true rest with
      | '.' :: '.' :: '.' :: rest =>
        match skip true rest with
        | ')' :: rest => some (t.written ++ ['.', '.', '.'], rest)
        | _ => none
      | ')' :: rest => some (t.written, rest)
      | ',' :: rest => do
        let (more, rest) ← readArguments n (skip true rest)
        return (if more.isEmpty then t.written else t.written ++ ',' :: ' ' :: more, rest)
      | _ => none

/-- The entries of an object, each ended by a comma or a line end, up to the closing brace. -/
def readEntries : Nat → List Char → Option (List (List Char × String × Term) × List Char)
  | 0, _ => none
  | n + 1, cs =>
    match cs with
    | '\x7d' :: rest => some ([], rest)
    | _ => do
      let (key, name, rest) ← readKey n cs
      let value ← match skip false rest with
        | '=' :: rest => some rest
        | ':' :: rest => some rest
        | _ => none
      let (t, rest) ← readExpression n false (skip true value)
      let more ← match skip false rest with
        | ',' :: rest => some (skip true rest)
        | '\x7d' :: rest => some ('\x7d' :: rest)
        | rest => (newline? (skipLineComment rest)).map (skip true)
      let (entries, rest) ← readEntries n more
      return ((key, name, t) :: entries, rest)

/-- A key of an object: as it is written, and as a name. -/
def readKey : Nat → List Char → Option (List Char × String × List Char)
  | 0, _ => none
  | n + 1, cs => do
    let (t, rest) ← readExpression n false cs
    match readName cs with
    | some (name, after) =>
      if after.length = rest.length then return (name, String.ofList name, rest)
      else return (t.written, textOf t, rest)
    | none => return (t.written, textOf t, rest)
where
  textOf (t : Term) : String :=
    match t.value with
    | .text s => s
    | _ => String.ofList t.written

/-- A loop expression after its first word, with its opening bracket. -/
def readLoop : Nat → Char → List Char → Option (Term × List Char)
  | 0, _, _ => none
  | n + 1, bracket, cs => do
    let (header, rest) ← readLoopHeader n cs
    match skip true rest with
    | ':' :: rest => do
      let (first, rest) ← readExpression n true rest
      let start := bracket :: 'f' :: 'o' :: 'r' :: ' ' :: (header ++ ' ' :: ':' :: ' ' :: first.written)
      if bracket = '[' then
        let (condition, rest) ← readCondition n (skip true rest)
        match rest with
        | ']' :: rest => return (Term.computed (start ++ condition ++ [']']), rest)
        | _ => none
      else
        match skip true rest with
        | '=' :: '>' :: rest => do
          let (value, rest) ← readExpression n true rest
          let (dots, rest) := match skip true rest with
            | '.' :: '.' :: '.' :: rest => (['.', '.', '.'], skip true rest)
            | rest => ([], rest)
          let (condition, rest) ← readCondition n rest
          match rest with
          | '\x7d' :: rest =>
            return (Term.computed (start ++ ' ' :: '=' :: '>' :: ' ' :: value.written ++ dots ++
              condition ++ ['\x7d']), rest)
          | _ => none
        | _ => none
    | _ => none

/-- The names that a loop binds and what it runs over. -/
def readLoopHeader : Nat → List Char → Option (List Char × List Char)
  | 0, _ => none
  | n + 1, cs => do
    let (first, rest) ← readName (skip true cs)
    let (names, rest) ← match skip true rest with
      | ',' :: rest => do
        let (second, rest) ← readName (skip true rest)
        some (first ++ ',' :: ' ' :: second, rest)
      | rest => some (first, rest)
    let rest ← word? "in" (skip true rest)
    let (t, rest) ← readExpression n true rest
    return (names ++ ' ' :: 'i' :: 'n' :: ' ' :: t.written, rest)

/-- The condition at the end of a loop, or nothing; blanks after it are dropped. -/
def readCondition : Nat → List Char → Option (List Char × List Char)
  | 0, _ => none
  | n + 1, cs =>
    match word? "if" cs with
    | some rest => do
      let (t, rest) ← readExpression n true rest
      return (' ' :: 'i' :: 'f' :: ' ' :: t.written, skip true rest)
    | none => some ([], cs)

/-- A text after its opening mark, or to the end of the input where it is not `quoted`, after the
parts already read; `opened` is what directives have left open. -/
def readTemplate : Nat → Bool → List TemplatePart → Bool → List Opened → List Char →
    Option (Term × List Char)
  | 0, _, _, _, _, _ => none
  | n + 1, quoted, parts, isLiteral, opened, cs =>
    let (raw, rest) := scanLiteral quoted cs
    let text := if quoted then unescape raw.length raw else unescapeMarks raw
    let parts := if raw.isEmpty then parts else ⟨text, escape text⟩ :: parts
    match rest with
    | [] =>
      if quoted || !opened.isEmpty then none else some (templateTerm parts.reverse isLiteral, [])
    | '$' :: '\x7b' :: rest => do
      let (front, rest) := strip rest
      let (t, rest) ← readExpression n true rest
      let (close, rest) ← closeTag rest
      let written := '$' :: '\x7b' :: (front ++ t.written ++ close)
      readTemplate n quoted (⟨written, written⟩ :: parts) false opened rest
    | '%' :: '\x7b' :: rest => do
      let (front, rest) := strip rest
      let (tag, opened, rest) ← readTag n opened (skip true rest)
      let (close, rest) ← closeTag rest
      let written := '%' :: '\x7b' :: (front ++ ' ' :: tag ++ ' ' :: close)
      readTemplate n quoted (⟨written, written⟩ :: parts) false opened rest
    | _ :: rest => if opened.isEmpty then some (templateTerm parts.reverse isLiteral, rest) else none
where
  /-- The mark that strips blanks before a template. -/
  strip : List Char → List Char × List Char
    | '~' :: rest => (['~'], rest)
    | rest => ([], rest)
  closeTag (cs : List Char) : Option (List Char × List Char) :=
    match skip true cs with
    | '~' :: '\x7d' :: rest => some (['~', '\x7d'], rest)
    | '\x7d' :: rest => some (['\x7d'], rest)
    | _ => none

/-- The inside of a directive, and what is open after it. -/
def readTag : Nat → List Opened → List Char → Option (List Char × List Opened × List Char)
  | 0, _, _ => none
  | n + 1, opened, cs => do
    let (name, rest) ← readName cs
    if name = "if".toList then
      let (t, rest) ← readExpression n true rest
      return (name ++ ' ' :: t.written, .condition :: opened, rest)
    else if name = "else".toList then
      match opened with
      | .condition :: opened => return (name, .alternative :: opened, rest)
      | _ => none
    else if name = "endif".toList then
      match opened with
      | .condition :: opened => return (name, opened, rest)
      | .alternative :: opened => return (name, opened, rest)
      | _ => none
    else if name = "for".toList then
      let (header, rest) ← readLoopHeader n rest
      return (name ++ ' ' :: header, .loop :: opened, rest)
    else if name = "endfor".toList then
      match opened with
      | .loop :: opened => return (name, opened, rest)
      | _ => none
    else none

/-- A text over several lines after its opening marks. -/
def readHeredoc : Nat → Bool → List Char → Option (Term × List Char)
  | 0, _, _ => none
  | n + 1, indented, cs => do
    let (mark, rest) ← readName cs
    let (lines, rest) ← heredocLines mark rest.length (← newline? rest)
    let lines := if indented then dedent lines else lines
    let (t, _) ← readTemplate n false [] true [] (lines.flatMap (· ++ ['\n']))
    return (t, rest)

end

end Upkeep.Hcl
