import Upkeep.Assertion.Basic

/-!
The order in which the assertions of a set are evaluated: by their order number, and by name where
the numbers agree.
-/

set_option autoImplicit false

namespace Upkeep

/-- Whether an assertion is evaluated before another, or is the other. -/
def precedes (a b : String × Assertion) : Bool :=
  a.2.effectiveOrder < b.2.effectiveOrder ||
    (a.2.effectiveOrder = b.2.effectiveOrder && a.1 ≤ b.1)

def sorted (assertions : Named Assertion) : List (String × Assertion) :=
  assertions.mergeSort precedes

end Upkeep
