import Upkeep.Target.Op

/-!
Asking somebody for passwords and for answers to questions.
-/

set_option autoImplicit false

namespace Upkeep

structure Prompter (σ : Type) where
  password : (prompt : String) → Op σ String
  /-- One answer to each question. An answer may be seen while it is typed if its echo says so. -/
  answers : (user instruction : String) → (questions : List String) → (echoes : List Bool) →
    Op σ (List String)

end Upkeep
