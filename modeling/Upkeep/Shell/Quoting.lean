/-!
Words for a shell's command line. A word that needs no quoting stands as it is, any other in single
quotation marks. A leading `~/` stays outside of them, for the shell to put the home directory there.
-/

set_option autoImplicit false

namespace Upkeep.Shell

def isPlain (c : Char) : Bool :=
  c.isAlphanum || ['/', '.', '_', '-', '+', ':', ',', '@', '%', '='].contains c

/-- A character between single quotation marks; the mark itself has to leave and enter them again. -/
def quoteChar (c : Char) : List Char :=
  if c = '\x27' then ['\x27', '\\', '\x27', '\x27'] else [c]

def quoteChars : List Char → List Char
  | '~' :: '/' :: rest => '~' :: '/' :: quoteChars rest
  | word =>
    if !word.isEmpty && word.all isPlain then word
    else '\x27' :: (word.flatMap quoteChar ++ ['\x27'])

def quote (word : String) : String := String.ofList (quoteChars word.toList)

end Upkeep.Shell
