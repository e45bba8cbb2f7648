import Mathlib.Data.List.Forall2
import Upkeep.Proofs.Within

/-!
What normalizing does to a group. What an assertion leaves open is filled in, everything it says
stays where it is, and the same holds in every set within the group. The validator cannot tell the
two groups apart.

`Within` reaches the sets of one group; `Beside` goes into two groups in step, by the same places.
-/

set_option autoImplicit false

namespace Upkeep

/-! ### Complete assertions -/

structure Assertion.Complete (a : Assertion) : Prop where
  ordered : ∃ order, a.order = some order
  acts : a.actions ≠ []
  decided : .unset ∉ a.actions

theorem Assertion.normalize_order (a : Assertion) :
    a.normalize.order = some (a.order.getD defaultOrder) := by
  obtain ⟨condition, order, actions⟩ := a
  rw [normalize]

theorem Assertion.normalize_condition (a : Assertion) : a.normalize.condition = a.condition := by
  obtain ⟨condition, order, actions⟩ := a
  rw [normalize]

theorem Assertion.normalize_complete (a : Assertion) : a.normalize.Complete where
  ordered := ⟨_, a.normalize_order⟩
  acts := a.normalize_actions_ne_nil
  decided := a.unset_not_mem_normalize

/-! ### What is kept -/

/-- An unset action has become a FAIL action, and any other is as it was. Of a set it is only said
here that it is still one. -/
inductive Action.Kept : Action → Action → Prop where
  | unset : Kept .unset .fail
  | same {x : Action} : x ≠ .unset → Kept x x
  | set (inner inner' : Named Assertion) : Kept (.assert inner) (.assert inner')

/-- The second assertion says what the first says, with defaults for what that leaves open. -/
structure Assertion.Kept (a b : Assertion) : Prop where
  condition : b.condition = a.condition
  order : ∀ order, a.order = some order → b.order = some order
  unordered : a.order = none → b.order = some defaultOrder
  actions : a.actions ≠ [] → List.Forall₂ Action.Kept a.actions b.actions
  idle : a.actions = [] → b.actions = [.fail]

theorem Action.kept_normalize (x : Action) : x.Kept x.normalize := by
  cases x with
  | unset => exact .unset
  | assert inner => exact .set inner (normalizeAll inner)
  | fail | copyFile | unrecognised =>
    apply Kept.same
    intro h
    cases h

theorem Assertion.normalize_actions_of_ne {a : Assertion} (h : a.actions ≠ []) :
    a.normalize.actions = a.actions.map Action.normalize := by
  have hempty : a.actions.isEmpty = false := List.isEmpty_eq_false_iff.mpr h
  rw [a.normalize_actions, hempty]
  rfl

theorem Assertion.kept_normalize (a : Assertion) : a.Kept a.normalize where
  condition := a.normalize_condition
  order order h := by
    rw [a.normalize_order, h]
    rfl
  unordered h := by
    rw [a.normalize_order, h]
    rfl
  actions h := by
    rw [normalize_actions_of_ne h, List.forall₂_map_right_iff, List.forall₂_same]
    intro x _
    exact x.kept_normalize
  idle h := by
    rw [a.normalize_actions, h]
    rfl

/-! ### Places -/

/-- Sets at the same place of two wholes: on the way to each, the actions that lead there stand at
the same positions, of assertions at the same positions. -/
inductive Beside (whole whole' : Named Assertion) : Named Assertion → Named Assertion → Prop where
  | whole : Beside whole whole' whole whole'
  | action {part part' inner inner' : Named Assertion} {e e' : String × Assertion} {i k : Nat} :
      Beside whole whole' part part' → part[i]? = some e → part'[i]? = some e' →
      e.2.actions[k]? = some (.assert inner) → e'.2.actions[k]? = some (.assert inner') →
      Beside whole whole' inner inner'

theorem getElem?_normalizeAll (assertions : Named Assertion) (i : Nat) :
    (normalizeAll assertions)[i]? = assertions[i]?.map fun e => (e.1, e.2.normalize) := by
  rw [normalizeAll_eq_map, List.getElem?_map]

theorem Assertion.getElem?_normalize {a : Assertion} {k : Nat} {inner : Named Assertion}
    (h : a.actions[k]? = some (.assert inner)) :
    a.normalize.actions[k]? = some (.assert (normalizeAll inner)) := by
  have hne : a.actions ≠ [] := by
    intro hnil
    rw [hnil] at h
    cases h
  rw [normalize_actions_of_ne hne, List.getElem?_map, h]
  rfl

theorem Beside.eq_normalizeAll {whole part part' : Named Assertion}
    (h : Beside whole (normalizeAll whole) part part') : part' = normalizeAll part := by
  induction h with
  | whole => rfl
  | @action part part' inner inner' e e' i k _ he he' hinner hinner' ih =>
    have hnormal : e.2.normalize = e'.2 := by
      rw [ih, getElem?_normalizeAll, he, Option.map_some, Option.some.injEq] at he'
      rw [← he']
    have hset := Assertion.getElem?_normalize hinner
    rw [hnormal, hinner'] at hset
    exact Action.assert.inj (Option.some.inj hset)

theorem Within.beside_normalizeAll {whole part : Named Assertion} (h : Within whole part) :
    Beside whole (normalizeAll whole) part (normalizeAll part) := by
  induction h with
  | whole => exact .whole
  | @action part inner name a _ hmem hinner ih =>
    obtain ⟨i, hi⟩ := List.mem_iff_getElem?.mp hmem
    obtain ⟨k, hk⟩ := List.mem_iff_getElem?.mp hinner
    have hi' : (normalizeAll part)[i]? = some (name, a.normalize) := by
      rw [getElem?_normalizeAll, hi]
      rfl
    exact .action ih hi hi' hk (Assertion.getElem?_normalize hk)

/-! ### Validity -/

mutual

theorem Assertion.validate_normalize : ∀ a : Assertion, a.normalize.validate = a.validate
  -- The action that is given to an assertion without any is valid.
  | ⟨condition, order, []⟩ => by
    simp [Assertion.normalize, Assertion.validate, validateActions, Action.validate]
  | ⟨condition, order, x :: xs⟩ => by
    have hactions := validateActions_normalizeActions (x :: xs)
    simp [Assertion.normalize, Assertion.validate, hactions]

theorem Action.validate_normalize : ∀ x : Action, x.normalize.validate = x.validate
  | .unset | .fail | .copyFile _ _ | .unrecognised _ | .assert [] => rfl
  | .assert ((name, a) :: as) => by
    have hall := validateAll_normalizeAll ((name, a) :: as)
    rw [normalizeAll] at hall
    rw [Action.normalize, normalizeAll, Action.validate, Action.validate, hall]

theorem validateActions_normalizeActions :
    ∀ xs : List Action, validateActions (normalizeActions xs) = validateActions xs
  | [] => rfl
  | x :: xs => by
    have hx := Action.validate_normalize x
    have hxs := validateActions_normalizeActions xs
    rw [normalizeActions, validateActions, validateActions, hx, hxs]

theorem validateAll_normalizeAll :
    ∀ assertions : List (String × Assertion),
      validateAll (normalizeAll assertions) = validateAll assertions
  | [] => rfl
  | (name, a) :: as => by
    have ha := Assertion.validate_normalize a
    have has := validateAll_normalizeAll as
    rw [normalizeAll, validateAll, validateAll, ha, has]

end

/-! ### Groups -/

/-- The second group is the first with all that it leaves open filled in. -/
structure Group.Completed (g g' : Group) : Prop where
  name : g'.name = g.name
  complete : ∀ part, Within g'.assertions part → ∀ e ∈ part, e.2.Complete
  /-- Wherever there is a set in one of them, there is one in the other. -/
  forth : ∀ part, Within g.assertions part →
    ∃ part', Beside g.assertions g'.assertions part part'
  back : ∀ part', Within g'.assertions part' →
    ∃ part, Beside g.assertions g'.assertions part part'
  kept : ∀ part part', Beside g.assertions g'.assertions part part' →
    List.Forall₂ (fun e e' => e'.1 = e.1 ∧ e.2.Kept e'.2) part part'

theorem Group.completed_normalize (g : Group) : g.Completed g.normalize where
  name := rfl
  complete := by
    rintro part hpart ⟨name, a⟩ he
    obtain ⟨part₀, -, rfl⟩ := hpart.of_normalizeAll
    obtain ⟨b, -, rfl⟩ := mem_normalizeAll.mp he
    exact b.normalize_complete
  forth part hpart := ⟨_, hpart.beside_normalizeAll⟩
  back part' hpart' := by
    obtain ⟨part, hpart, rfl⟩ := hpart'.of_normalizeAll
    exact ⟨part, hpart.beside_normalizeAll⟩
  kept part part' h := by
    rw [Beside.eq_normalizeAll h, normalizeAll_eq_map, List.forall₂_map_right_iff,
      List.forall₂_same]
    intro e _
    exact ⟨rfl, e.2.kept_normalize⟩

/-- Normalizing completes a group once and for all, and does not change what is wrong with it. -/
theorem Group.normalize_completes (g : Group) :
    g.Completed g.normalize ∧ g.normalize.normalize = g.normalize ∧
      g.normalize.validate = g.validate := by
  refine ⟨g.completed_normalize, g.normalize_normalize, ?_⟩
  exact validateAll_normalizeAll g.assertions

end Upkeep
