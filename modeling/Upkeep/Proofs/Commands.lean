import Upkeep.Proofs.Quoting

/-!
Lines that are one simple command: its words, and where its input and output go. Whatever path a
file has, the lines that read, digest and write it are one command each, the same one for every
path, which is given the path and nothing else.
-/

set_option autoImplicit false

namespace Upkeep

namespace Shell

/-! ### Simple commands -/

structure Redirection where
  /-- The digits before the operator. -/
  descriptor : Option String := none
  operator : String
  target : String
  deriving DecidableEq, Repr

structure SimpleCommand where
  words : List String := []
  redirections : List Redirection := []
  deriving DecidableEq, Repr

/-- A here-document takes lines that are not in the line at hand, and is left out. -/
def redirectionOperators : List String := ["<", ">", ">>", "<&", ">&", "<>", ">|"]

def redirection? (home : String) (descriptor : Option String) (chars : List Char)
    (glyphs : List Glyph) : Option Redirection :=
  if redirectionOperators.contains (String.ofList chars) then
    (argument? home glyphs).map fun target => ⟨descriptor, String.ofList chars, target⟩
  else none

namespace SimpleCommand

def addWord (word : String) (c : SimpleCommand) : SimpleCommand :=
  { c with words := word :: c.words }

def addRedirection (r : Redirection) (c : SimpleCommand) : SimpleCommand :=
  { c with redirections := r :: c.redirections }

/-- Any operator but a redirection with its target ends the command: there is more than one. -/
def ofTokens? (home : String) : List Token → Option SimpleCommand
  | [] => some {}
  | .word glyphs :: tokens => do
    let word ← argument? home glyphs
    let rest ← ofTokens? home tokens
    return rest.addWord word
  | .operator chars :: .word glyphs :: tokens => do
    let r ← redirection? home none chars glyphs
    let rest ← ofTokens? home tokens
    return rest.addRedirection r
  | .descriptor digits :: .operator chars :: .word glyphs :: tokens => do
    let r ← redirection? home (some (String.ofList digits)) chars glyphs
    let rest ← ofTokens? home tokens
    return rest.addRedirection r
  | _ => none

end SimpleCommand

def reservedWords : List String :=
  ["!", "\x7b", "\x7d", "case", "do", "done", "elif", "else", "esac", "fi", "for", "if", "in",
    "then", "until", "while"]

/-- Whether the first word of a command can be its name, which a reserved word is not, nor a word
that may be an assignment. -/
def canName (glyphs : List Glyph) : Bool :=
  !(glyphs.all (fun g => g.quoting = .bare) && reservedWords.contains (plainText glyphs)) &&
    !glyphs.any fun g => g.isBare '='

/-- A line that is one command and begins with its name. -/
def simpleCommand? (home line : String) : Option SimpleCommand :=
  match tokens? line with
  | some (.word glyphs :: tokens) =>
    if canName glyphs then SimpleCommand.ofTokens? home (.word glyphs :: tokens) else none
  | _ => none

example : simpleCommand? "/root" "cat 'a;b' 2>>~/log" =
    some ⟨["cat", "a;b"], [⟨some "2", ">>", "/root/log"⟩]⟩ := by
  decide +kernel

example : simpleCommand? "/root" "cat a;b" = none := by
  decide +kernel

/-! ### A quoted word at the end -/

theorem tokens?_quote {start : String} {tokens : List Token}
    (hstart : Scanner.scan {} start.toList = ⟨.bare, tokens, none⟩) (word : String) :
    tokens? (start ++ quote word) = some (tokens ++ [.word (glyphs word.toList)]) := by
  rw [tokens?, String.toList_append, toList_quote, Scanner.scan_append, hstart,
    Scanner.scan_quoteChars_none]
  rfl

namespace SimpleCommand

variable {home : String} {tokens : List Token} {c : SimpleCommand}

theorem ofTokens?_bareGlyphs (word : String)
    (hplain : (!word.toList.isEmpty && word.toList.all isPlain) = true)
    (hrest : ofTokens? home tokens = some c) :
    ofTokens? home (.word (bareGlyphs word.toList) :: tokens) = some (c.addWord word) := by
  rw [ofTokens?, argument?_bareGlyphs home hplain, hrest]
  rfl

theorem ofTokens?_glyphs (word : String) (hrest : ofTokens? home tokens = some c) :
    ofTokens? home (.word (glyphs word.toList) :: tokens) =
      some (c.addWord (fromHome home word)) := by
  rw [ofTokens?, argument?_glyphs, hrest]
  rfl

theorem ofTokens?_redirection {chars : List Char}
    (hchars : redirectionOperators.contains (String.ofList chars) = true) (word : String)
    (hrest : ofTokens? home tokens = some c) :
    ofTokens? home (.operator chars :: .word (glyphs word.toList) :: tokens) =
      some (c.addRedirection ⟨none, String.ofList chars, fromHome home word⟩) := by
  have hr : redirection? home none chars (glyphs word.toList) =
      some ⟨none, String.ofList chars, fromHome home word⟩ := by
    rw [redirection?, if_pos hchars, argument?_glyphs, Option.map_some]
  rw [ofTokens?, hr, hrest]
  rfl

end SimpleCommand

theorem simpleCommand?_of_tokens {home line name : String} {tokens : List Token}
    {c : SimpleCommand} (htokens : tokens? line = some (.word (bareGlyphs name.toList) :: tokens))
    (hname : canName (bareGlyphs name.toList) = true)
    (hc : SimpleCommand.ofTokens? home (.word (bareGlyphs name.toList) :: tokens) = some c) :
    simpleCommand? home line = some c := by
  unfold simpleCommand?
  rw [htokens]
  exact (if_pos hname).trans hc

end Shell

open Shell

/-- A path is an operand to the commands that read and digest, and to the one that writes it is
where the output goes. It comes to each as it is, but for the home directory in place of a tilde
before a slash. -/
theorem Remote.Command.line_simple (home path : String) :
    simpleCommand? home (Command.read path).line =
        some { words := ["cat", "--", fromHome home path] } ∧
      simpleCommand? home (Command.digest path).line =
        some { words := ["md5sum", "--", fromHome home path] } ∧
      simpleCommand? home (Command.write path).line =
        some { words := ["cat", "-"], redirections := [⟨none, ">", fromHome home path⟩] } := by
  have hnothing : SimpleCommand.ofTokens? home [] = some {} := rfl
  have hoperand := SimpleCommand.ofTokens?_glyphs path hnothing
  have hoperands := SimpleCommand.ofTokens?_bareGlyphs "--" (by decide) hoperand
  have hgreater : redirectionOperators.contains (String.ofList ['>']) = true := by decide
  have htarget := SimpleCommand.ofTokens?_redirection hgreater path hnothing
  have hinput := SimpleCommand.ofTokens?_bareGlyphs "-" (by decide) htarget
  refine ⟨?_, ?_, ?_⟩
  · have hstart : Scanner.scan {} "cat -- ".toList =
        ⟨.bare, [.word (bareGlyphs "cat".toList), .word (bareGlyphs "--".toList)], none⟩ := by
      decide +kernel
    exact simpleCommand?_of_tokens (tokens?_quote hstart path) (by decide)
      (SimpleCommand.ofTokens?_bareGlyphs "cat" (by decide) hoperands)
  · have hstart : Scanner.scan {} "md5sum -- ".toList =
        ⟨.bare, [.word (bareGlyphs "md5sum".toList), .word (bareGlyphs "--".toList)], none⟩ := by
      decide +kernel
    exact simpleCommand?_of_tokens (tokens?_quote hstart path) (by decide)
      (SimpleCommand.ofTokens?_bareGlyphs "md5sum" (by decide) hoperands)
  · have hstart : Scanner.scan {} "cat - > ".toList =
        ⟨.bare, [.word (bareGlyphs "cat".toList), .word (bareGlyphs "-".toList),
          .operator ['>']], none⟩ := by
      decide +kernel
    exact simpleCommand?_of_tokens (tokens?_quote hstart path) (by decide)
      (SimpleCommand.ofTokens?_bareGlyphs "cat" (by decide) hinput)

end Upkeep
