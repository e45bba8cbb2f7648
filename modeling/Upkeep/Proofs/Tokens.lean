/-!
How a shell reads a line. The line is cut into tokens, one character after another, as quotation
marks, blanks and operators demand. A word among them stands for an argument if nothing takes place
in it but the removal of quotation marks and the replacement of a leading tilde; any other expansion
is outside of what is said here, and a word that asks for one has no argument.
-/

set_option autoImplicit false

namespace Upkeep.Shell

/-! ### Tokens -/

/-- What keeps a character of a word from having a meaning of its own. -/
inductive Quoting where
  | bare
  /-- Between double marks, where a few characters keep their meaning. -/
  | double
  | full
  deriving DecidableEq, Repr

structure Glyph where
  char : Char
  quoting : Quoting
  deriving DecidableEq, Repr

inductive Token where
  | word (glyphs : List Glyph)
  | operator (chars : List Char)
  /-- Digits right before a redirection. -/
  | descriptor (digits : List Char)
  deriving DecidableEq, Repr

def operators : List (List Char) :=
  ["&", "&&", "(", ")", ";", ";;", "|", "||", "<", "<<", "<<-", "<&", "<>", ">", ">>", ">&", ">|",
    "\n"].map String.toList

def isOperator (chars : List Char) : Bool := operators.contains chars

inductive Mode where
  | bare
  /-- After a backslash. -/
  | escaped
  | single
  | double
  /-- After a backslash between double marks. -/
  | doubleEscaped
  | comment
  deriving DecidableEq, Repr

/-- A line that is being read. -/
structure Scanner where
  mode : Mode := .bare
  tokens : List Token := []
  /-- The token that has not been delimited yet. -/
  current : Option Token := none
  deriving DecidableEq, Repr

namespace Scanner

def delimit (s : Scanner) : Scanner :=
  { s with tokens := s.tokens ++ s.current.toList, current := none }

/-- A character goes to the word at hand, or begins one. -/
def put (s : Scanner) (g : Glyph) : Scanner :=
  match s.current with
  | some (.word glyphs) => { s with current := some (.word (glyphs ++ [g])) }
  | _ => { s.delimit with current := some (.word [g]) }

/-- A mark begins a word too, even if nothing comes before the mark that closes it. -/
def enter (s : Scanner) (mode : Mode) : Scanner :=
  match s.current with
  | some (.word _) => { s with mode := mode }
  | _ => { s.delimit with mode := mode, current := some (.word []) }

def operate (s : Scanner) (c : Char) : Scanner :=
  match s.current with
  | some (.word glyphs) =>
    if ['<', '>'].contains c && !glyphs.isEmpty &&
        glyphs.all fun g => g.quoting = .bare && g.char.isDigit then
      { s with
        tokens := s.tokens ++ [.descriptor (glyphs.map Glyph.char)]
        current := some (.operator [c]) }
    else { s.delimit with current := some (.operator [c]) }
  | _ => { s.delimit with current := some (.operator [c]) }

/-- The operator that the one at hand becomes with one character more. -/
def longer? (s : Scanner) (c : Char) : Option (List Char) :=
  match s.current with
  | some (.operator chars) => if isOperator (chars ++ [c]) then some (chars ++ [c]) else none
  | _ => none

def isInWord (s : Scanner) : Bool :=
  match s.current with
  | some (.word _) => true
  | _ => false

def stepBare (s : Scanner) (c : Char) : Scanner :=
  match s.longer? c with
  | some chars => { s with current := some (.operator chars) }
  | none =>
    if c = '\\' then { s with mode := .escaped }
    else if c = '\x27' then s.enter .single
    else if c = '\x22' then s.enter .double
    else if c = ' ' || c = '\t' then s.delimit
    else if isOperator [c] then s.operate c
    else if c = '#' && !s.isInWord then { s.delimit with mode := .comment }
    else s.put ⟨c, .bare⟩

def stepDoubleEscaped (s : Scanner) (c : Char) : Scanner :=
  if c = '\n' then s
  else if ['$', '\x60', '\x22', '\\'].contains c then s.put ⟨c, .full⟩
  else (s.put ⟨'\\', .full⟩).put ⟨c, .double⟩

def step (s : Scanner) (c : Char) : Scanner :=
  match s.mode with
  | .bare => s.stepBare c
  | .escaped =>
    if c = '\n' then { s with mode := .bare } else { s.put ⟨c, .full⟩ with mode := .bare }
  | .single => if c = '\x27' then { s with mode := .bare } else s.put ⟨c, .full⟩
  | .double =>
    if c = '\x22' then { s with mode := .bare }
    else if c = '\\' then { s with mode := .doubleEscaped }
    else s.put ⟨c, .double⟩
  | .doubleEscaped => { s with mode := .double }.stepDoubleEscaped c
  | .comment => if c = '\n' then { s with mode := .bare }.operate c else s

def scan (s : Scanner) (cs : List Char) : Scanner := cs.foldl step s

@[simp] theorem scan_nil (s : Scanner) : s.scan [] = s := rfl

@[simp] theorem scan_cons (s : Scanner) (c : Char) (cs : List Char) :
    s.scan (c :: cs) = (s.step c).scan cs := rfl

@[simp] theorem scan_append (s : Scanner) (cs cs' : List Char) :
    s.scan (cs ++ cs') = (s.scan cs).scan cs' := List.foldl_append

/-- A mark that has been opened has to be closed. -/
def finish? (s : Scanner) : Option (List Token) :=
  match s.mode with
  | .bare | .comment => some (s.tokens ++ s.current.toList)
  | _ => none

end Scanner

def tokens? (line : String) : Option (List Token) := (Scanner.scan {} line.toList).finish?

/-! ### Arguments -/

/-- Whether a character begins no expansion; the tilde does so at the start of a word only. -/
def Glyph.isInert (g : Glyph) : Bool :=
  match g.quoting with
  | .bare => !(['$', '\x60', '*', '?', '['].contains g.char)
  | .double => !(['$', '\x60'].contains g.char)
  | .full => true

def Glyph.isBare (g : Glyph) (c : Char) : Bool := g = ⟨c, .bare⟩

/-- Without the marks; the tilde has been dealt with. -/
def plainText (glyphs : List Glyph) : String := String.ofList (glyphs.map Glyph.char)

/-- A bare tilde stands for the home directory if it is all that is before the first bare slash. If
there is more, it is the name of a user, whose home is not known here, unless a part is quoted. -/
def withHome? (home : String) : List Glyph → Option String
  | [] => some ""
  | g :: glyphs =>
    if g.isBare '~' then
      let login := glyphs.takeWhile fun g => !g.isBare '/'
      if login.isEmpty then some (home ++ plainText glyphs)
      else if login.all fun g => g.quoting = .bare then none
      else some (plainText (g :: glyphs))
    else some (plainText (g :: glyphs))

def argument? (home : String) (glyphs : List Glyph) : Option String :=
  if glyphs.all Glyph.isInert then withHome? home glyphs else none

def Token.argument? (home : String) : Token → Option String
  | .word glyphs => Shell.argument? home glyphs
  | .operator _ | .descriptor _ => none

/-- The arguments of a command that is nothing but words. -/
def arguments? (home line : String) : Option (List String) :=
  (tokens? line).bind fun tokens => tokens.mapM (Token.argument? home)

example : arguments? "/root" "cat 'a b' ~/x \"c\\\"d\" \\~" =
    some ["cat", "a b", "/root/x", "c\"d", "~"] := by
  decide +kernel

end Upkeep.Shell
