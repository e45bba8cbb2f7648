import Upkeep.Assertion.Basic

/-!
The normal form of assertions, in which nothing is left to defaults: each has an order and at least
one action, and no action is unset. It reaches into nested assertions.
-/

set_option autoImplicit false

namespace Upkeep

mutual

def Assertion.normalize : Assertion → Assertion
  | ⟨condition, order, actions⟩ =>
    ⟨condition, some (order.getD defaultOrder),
      if actions.isEmpty then [.fail] else normalizeActions actions⟩

def Action.normalize : Action → Action
  | .unset => .fail
  | .assert assertions => .assert (normalizeAll assertions)
  | action => action

def normalizeActions : List Action → List Action
  | [] => []
  | a :: as => a.normalize :: normalizeActions as

def normalizeAll : List (String × Assertion) → List (String × Assertion)
  | [] => []
  | (name, a) :: as => (name, a.normalize) :: normalizeAll as

end

def Group.normalize (g : Group) : Group := { g with assertions := normalizeAll g.assertions }

end Upkeep
