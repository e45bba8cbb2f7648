import Upkeep.Assertion.Normal
import Upkeep.Assertion.Validity

/-!
Sets of assertions within sets. An action may be a set of assertions, whose actions may be sets
again; `Within` reaches all of them. Normalizing and validating a set do to each set within it what
they do to the whole.
-/

set_option autoImplicit false

namespace Upkeep

/-- A part is the whole, or an action of an assertion in a part. -/
inductive Within (whole : Named Assertion) : Named Assertion → Prop where
  | whole : Within whole whole
  | action {part inner : Named Assertion} {name : String} {a : Assertion} :
      Within whole part → (name, a) ∈ part → .assert inner ∈ a.actions → Within whole inner

theorem Within.trans {whole part inner : Named Assertion} (h : Within whole part)
    (h' : Within part inner) : Within whole inner := by
  induction h' with
  | whole => exact h
  | action _ hmem haction ih => exact .action ih hmem haction

theorem Within.first {whole part : Named Assertion} (h : Within whole part) :
    part = whole ∨ ∃ name a inner, (name, a) ∈ whole ∧ .assert inner ∈ a.actions ∧
      Within inner part := by
  induction h with
  | whole => exact Or.inl rfl
  | action _ hmem haction ih =>
    rcases ih with rfl | ⟨name, a, inner, hfirst, hinner, hwithin⟩
    · exact Or.inr ⟨_, _, _, hmem, haction, .whole⟩
    · exact Or.inr ⟨name, a, inner, hfirst, hinner, .action hwithin hmem haction⟩

/-! ### Normal forms -/

theorem normalizeActions_eq_map (xs : List Action) :
    normalizeActions xs = xs.map Action.normalize := by
  induction xs with
  | nil => rfl
  | cons x xs ih => rw [normalizeActions, ih, List.map_cons]

theorem normalizeAll_eq_map (assertions : List (String × Assertion)) :
    normalizeAll assertions = assertions.map fun (name, a) => (name, a.normalize) := by
  induction assertions with
  | nil => rfl
  | cons e assertions ih => rw [normalizeAll, ih, List.map_cons]

theorem mem_normalizeAll {assertions : Named Assertion} {name : String} {a : Assertion} :
    (name, a) ∈ normalizeAll assertions ↔ ∃ b, (name, b) ∈ assertions ∧ b.normalize = a := by
  rw [normalizeAll_eq_map, List.mem_map]
  constructor
  · rintro ⟨⟨name', b⟩, hb, heq⟩
    obtain ⟨rfl, rfl⟩ := Prod.mk.inj heq
    exact ⟨b, hb, rfl⟩
  · rintro ⟨b, hb, rfl⟩
    exact ⟨(name, b), hb, rfl⟩

theorem Assertion.normalize_actions (a : Assertion) :
    a.normalize.actions =
      if a.actions.isEmpty then [.fail] else a.actions.map Action.normalize := by
  obtain ⟨condition, order, actions⟩ := a
  rw [normalize, normalizeActions_eq_map]

theorem Assertion.normalize_actions_ne_nil (a : Assertion) : a.normalize.actions ≠ [] := by
  rw [normalize_actions]
  split
  · simp
  · simp_all

theorem Assertion.unset_not_mem_normalize (a : Assertion) : .unset ∉ a.normalize.actions := by
  rw [normalize_actions]
  split
  · simp
  · intro hmem
    obtain ⟨x, -, hx⟩ := List.mem_map.mp hmem
    cases x <;> simp [Action.normalize] at hx

theorem Assertion.assert_mem_normalize {a : Assertion} {inner : Named Assertion}
    (h : .assert inner ∈ a.normalize.actions) :
    ∃ inner₀, .assert inner₀ ∈ a.actions ∧ normalizeAll inner₀ = inner := by
  rw [normalize_actions] at h
  split at h
  · simp at h
  · obtain ⟨x, hmem, hx⟩ := List.mem_map.mp h
    cases x with
    | assert inner₀ =>
      rw [Action.normalize] at hx
      exact ⟨inner₀, hmem, Action.assert.inj hx⟩
    | _ => simp [Action.normalize] at hx

/-- What is within a normal form is the normal form of something within. -/
theorem Within.of_normalizeAll {whole part : Named Assertion}
    (h : Within (normalizeAll whole) part) :
    ∃ part₀, Within whole part₀ ∧ normalizeAll part₀ = part := by
  induction h with
  | whole => exact ⟨whole, .whole, rfl⟩
  | action _ hmem haction ih =>
    obtain ⟨part₀, hpart, rfl⟩ := ih
    obtain ⟨b, hb, rfl⟩ := mem_normalizeAll.mp hmem
    obtain ⟨inner₀, hinner, hnormal⟩ := Assertion.assert_mem_normalize haction
    exact ⟨inner₀, .action hpart hb hinner, hnormal⟩

mutual

theorem Assertion.normalize_normalize : ∀ a : Assertion, a.normalize.normalize = a.normalize
  -- Without actions it is given one, and that is normal as it is.
  | ⟨condition, order, []⟩ => by simp [Assertion.normalize, normalizeActions, Action.normalize]
  | ⟨condition, order, x :: xs⟩ => by
    have hx := Action.normalize_normalize x
    have hxs := normalizeActions_normalizeActions xs
    simp [Assertion.normalize, normalizeActions, hx, hxs]

theorem Action.normalize_normalize : ∀ x : Action, x.normalize.normalize = x.normalize
  | .unset | .fail | .copyFile _ _ | .unrecognised _ => rfl
  | .assert assertions => by
    have hall := normalizeAll_normalizeAll assertions
    simp [Action.normalize, hall]

theorem normalizeActions_normalizeActions :
    ∀ xs : List Action, normalizeActions (normalizeActions xs) = normalizeActions xs
  | [] => rfl
  | x :: xs => by
    have hx := Action.normalize_normalize x
    have hxs := normalizeActions_normalizeActions xs
    simp [normalizeActions, hx, hxs]

theorem normalizeAll_normalizeAll :
    ∀ assertions : List (String × Assertion),
      normalizeAll (normalizeAll assertions) = normalizeAll assertions
  | [] => rfl
  | (name, a) :: assertions => by
    have ha := Assertion.normalize_normalize a
    have hall := normalizeAll_normalizeAll assertions
    simp [normalizeAll, ha, hall]

end

theorem Group.normalize_normalize (g : Group) : g.normalize.normalize = g.normalize := by
  simp [normalize, normalizeAll_normalizeAll]

/-! ### Validity -/

theorem validateActions_ok_iff {xs : List Action} :
    validateActions xs = .ok () ↔ ∀ x ∈ xs, x.validate = .ok () := by
  induction xs with
  | nil => simp [validateActions]
  | cons x xs ih =>
    rw [validateActions]
    cases hx : x.validate <;> simp [hx, ih]

theorem validateAll_ok_iff {assertions : Named Assertion} :
    validateAll assertions = .ok () ↔
      ∀ e ∈ assertions, Text.isBlankText e.1 = false ∧ e.2.validate = .ok () := by
  induction assertions with
  | nil => simp [validateAll]
  | cons e assertions ih =>
    obtain ⟨name, a⟩ := e
    rw [validateAll]
    cases hname : Text.isBlankText name <;> cases ha : a.validate <;> simp [hname, ha, ih]

theorem Assertion.validate_ok_iff {a : Assertion} :
    a.validate = .ok () ↔
      a.condition.validate = .ok () ∧ ∀ x ∈ a.actions, x.validate = .ok () := by
  obtain ⟨condition, order, actions⟩ := a
  rw [validate, ← validateActions_ok_iff]
  cases condition.validate <;> simp

theorem Action.validate_assert_ok_iff {inner : Named Assertion} :
    (Action.assert inner).validate = .ok () ↔ inner ≠ [] ∧ validateAll inner = .ok () := by
  cases inner with
  | nil => simp [validate]
  | cons e inner =>
    rw [validate]
    cases hall : validateAll (e :: inner) with
    | error flaw =>
      constructor
      · intro h
        cases h
      · rintro ⟨-, h⟩
        cases h
    | ok => exact iff_of_true rfl ⟨List.cons_ne_nil e inner, rfl⟩

theorem Within.validateAll {whole part : Named Assertion} (h : Within whole part)
    (hvalid : Upkeep.validateAll whole = .ok ()) : Upkeep.validateAll part = .ok () := by
  induction h with
  | whole => exact hvalid
  | action _ hmem haction ih =>
    have ha := (validateAll_ok_iff.mp ih _ hmem).2
    have hx := (Assertion.validate_ok_iff.mp ha).2 _ haction
    exact (Action.validate_assert_ok_iff.mp hx).2

end Upkeep
