import Upkeep.Auth.Prompter
import Upkeep.Text.Blank

/-!
Prompts on the console. Answers are read from a terminal; without one, every question fails.
-/

set_option autoImplicit false

namespace Upkeep.Console

/-- What is asked, without the colon that ends it. -/
def promptText (prompt : String) : String :=
  String.ofList
    (Text.dropEndWhile (· == ':') (Text.dropEndWhile Text.isBlank prompt.toList))

def notTerminal : Fault := .io (.custom "IO error: not a terminal")

/-- The line that goes before questions. -/
def instructionLine (user instruction : String) : String :=
  if instruction = "" then "" else instruction ++ " (" ++ user ++ ")\n"

/-- A prompter that has no terminal. Its world is what has been printed. -/
def detached : Prompter String where
  password _ := Op.fail notTerminal
  answers user instruction questions _ := fun printed =>
    (if questions.isEmpty then .ok [] else .error notTerminal,
      printed ++ instructionLine user instruction)

end Upkeep.Console
