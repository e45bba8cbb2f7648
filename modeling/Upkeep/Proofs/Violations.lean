import Upkeep.Proofs.Accepted
import Upkeep.Proofs.WellFormed

/-!
What the validator complains about. Of all violations in a group it reports the one that comes first
in its walk, with the names on the way there.

The walk is an order on `Spot`s, which name the parts of a group without the group itself.
-/

set_option autoImplicit false

namespace Upkeep

/-! ### Spots and the walk -/

theorem AssertionFlaw.message_inside (name : String) (flaw : AssertionFlaw) :
    (inside name flaw).message = "assertion " ++ Text.quoted name ++ ": " ++ flaw.message := rfl

theorem AssertionFlaw.message_nested (flaw : AssertionFlaw) :
    (nested flaw).message = "nested ASSERT action" ++ ": " ++ flaw.message := by
  have hsplit : "nested ASSERT action: " = "nested ASSERT action" ++ ": " := by decide
  rw [← hsplit]
  rfl

/-- A part of a set of assertions, down to a part of a set within. -/
inductive Spot where
  | name (assertion : String)
  | parameters (assertion : String)
  | action (assertion : String) (position : Nat)
  | within (assertion : String) (position : Nat) (spot : Spot)

namespace Spot

/-- The assertion of the outermost set. -/
def assertion : Spot → String
  | name n | parameters n | action n _ | within n _ _ => n

/-- When a walk gets there, among the parts of the assertion. -/
def turn : Spot → Nat
  | name _ => 0
  | parameters _ => 1
  | action _ k | within _ k _ => k + 2

/-- The walk takes assertions by their names. In each it looks at the name, then at the parameters,
then at the actions one by one, where it goes into a set before it goes on. -/
inductive Before : Spot → Spot → Prop where
  | name {p q : Spot} : p.assertion < q.assertion → Before p q
  | turn {p q : Spot} : p.assertion = q.assertion → p.turn < q.turn → Before p q
  | within {p q : Spot} (n : String) (k : Nat) : Before p q → Before (within n k p) (within n k q)

theorem Before.asymm {p q : Spot} (h : p.Before q) : ¬ q.Before p := by
  induction h with
  | name hlt =>
    intro h
    cases h with
    | name hlt' => exact String.lt_asymm hlt hlt'
    | turn heq => exact String.ne_of_lt hlt heq.symm
    | within => exact String.lt_irrefl _ hlt
  | turn heq hlt =>
    intro h
    cases h with
    | name hlt' => exact String.ne_of_lt hlt' heq.symm
    | turn _ hlt' => omega
    | within => exact Nat.lt_irrefl _ hlt
  | within n k _ ih =>
    intro h
    cases h with
    | name hlt => exact String.lt_irrefl _ hlt
    | turn _ hlt => exact Nat.lt_irrefl _ hlt
    | within _ _ h => exact ih h

/-- Of what holds at several spots, what the walk comes to first. -/
structure First (Holds : Spot → AssertionFlaw → Prop) (spot : Spot) (cause : AssertionFlaw) :
    Prop where
  holds : Holds spot cause
  first : ∀ spot' cause', Holds spot' cause' → spot' = spot ∨ spot.Before spot'

theorem First.unique {Holds : Spot → AssertionFlaw → Prop} {spot spot' : Spot}
    {cause cause' : AssertionFlaw} (h : First Holds spot cause)
    (h' : First Holds spot' cause') : spot' = spot := by
  rcases h.first _ _ h'.holds with heq | hbefore
  · exact heq
  · rcases h'.first _ _ h.holds with heq | hafter
    · exact heq.symm
    · exact absurd hafter hbefore.asymm

/-- How a flaw at a spot is reported: with the way there. -/
def report : Spot → AssertionFlaw → AssertionFlaw
  | name _, cause => cause
  | parameters n, cause | action n _, cause => .inside n cause
  | within n _ spot, cause => .inside n (.nested (spot.report cause))

/-- What a message says before the cause itself: the names of the assertions on the way. -/
def contexts : Spot → List String
  | name _ => []
  | parameters n | action n _ => ["assertion " ++ Text.quoted n]
  | within n _ spot => ("assertion " ++ Text.quoted n) :: "nested ASSERT action" :: spot.contexts

theorem report_message (spot : Spot) (cause : AssertionFlaw) :
    (spot.report cause).message = ": ".intercalate (spot.contexts ++ [cause.message]) := by
  induction spot with
  | name => exact String.intercalate_singleton.symm
  | parameters | action =>
    rw [contexts, List.cons_append, List.nil_append, String.intercalate_cons_cons,
      String.intercalate_singleton, report, AssertionFlaw.message_inside]
  | within n k spot ih =>
    have hne : spot.contexts ++ [cause.message] ≠ [] := by simp
    rw [contexts, List.cons_append, List.cons_append, String.intercalate_cons_cons,
      String.intercalate_cons_of_ne_nil hne, ← ih, report, AssertionFlaw.message_inside,
      AssertionFlaw.message_nested]

end Spot

/-! ### Violations -/

/-- What is wrong with an assertion of a name, and with those in its actions. -/
inductive Violation : String → Assertion → Spot → AssertionFlaw → Prop where
  | name {n : String} (a : Assertion) : Text.isBlankText n = true →
      Violation n a (.name n) .unnamed
  | parameters {a : Assertion} {cause : AssertionFlaw} (n : String) : a.condition.Lacks cause →
      Violation n a (.parameters n) cause
  | action {a : Assertion} {x : Action} {k : Nat} {cause : AssertionFlaw} (n : String) :
      a.actions[k]? = some x → x.Lacks cause → Violation n a (.action n k) cause
  | within {a b : Assertion} {inner : Named Assertion} {m : String} {k : Nat} {spot : Spot}
      {cause : AssertionFlaw} (n : String) :
      a.actions[k]? = some (.assert inner) → (m, b) ∈ inner → Violation m b spot cause →
      Violation n a (.within n k spot) cause

/-- Something is wrong with what the walk looks at then. -/
def Fails (name : String) (a : Assertion) : Nat → Prop
  | 0 => Text.isBlankText name = true
  | 1 => a.condition.validate ≠ .ok ()
  | k + 2 => ∃ x, a.actions[k]? = some x ∧ x.validate ≠ .ok ()

theorem Fails.not_ok {name : String} {a : Assertion} {turn : Nat} (h : Fails name a turn) :
    ¬ (Text.isBlankText name = false ∧ a.validate = .ok ()) := by
  rintro ⟨hname, ha⟩
  obtain ⟨hcondition, hactions⟩ := Assertion.validate_ok_iff.mp ha
  match turn, h with
  | 0, hblank =>
    rw [Fails, hname] at hblank
    cases hblank
  | 1, hinvalid => exact hinvalid hcondition
  | _ + 2, ⟨x, hx, hinvalid⟩ => exact hinvalid (hactions x (List.mem_of_getElem? hx))

structure Assertion.CleanTo (name : String) (a : Assertion) (k : Nat) : Prop where
  named : Text.isBlankText name = false
  condition : a.condition.validate = .ok ()
  actions : ∀ j < k, ∀ x, a.actions[j]? = some x → x.validate = .ok ()

def Violated (assertions : Named Assertion) (spot : Spot) (cause : AssertionFlaw) : Prop :=
  ∃ e ∈ assertions, Violation e.1 e.2 spot cause

namespace Violation

variable {name : String} {a : Assertion} {spot : Spot} {cause : AssertionFlaw}

theorem assertion_eq (h : Violation name a spot cause) : spot.assertion = name := by
  cases h <;> rfl

theorem fails (h : Violation name a spot cause) : Fails name a spot.turn := by
  induction h with
  | name a hblank => exact hblank
  | parameters n hlacks =>
    intro hok
    rw [Condition.validate_error_iff.mpr hlacks] at hok
    cases hok
  | action n hx hlacks =>
    refine ⟨_, hx, fun hok => ?_⟩
    rw [Action.validate_error_iff.mpr (Or.inl hlacks)] at hok
    cases hok
  | within n hinner hmem _ ih =>
    refine ⟨_, hinner, fun hok => ?_⟩
    have hall := (Action.validate_assert_ok_iff.mp hok).2
    exact ih.not_ok (validateAll_ok_iff.mp hall _ hmem)

theorem turn_le (h : Violation name a spot cause) {k : Nat} (hclean : a.CleanTo name k) :
    k + 2 ≤ spot.turn := by
  have hfails := h.fails
  match hturn : spot.turn, hfails with
  | 0, hblank =>
    rw [Fails, hclean.named] at hblank
    cases hblank
  | 1, hinvalid => exact absurd hclean.condition hinvalid
  | j + 2, ⟨x, hx, hinvalid⟩ =>
    by_contra hlt
    exact hinvalid (hclean.actions j (by omega) x hx)

end Violation

theorem Violated.not_ok {assertions : Named Assertion} {spot : Spot} {cause : AssertionFlaw}
    (h : Violated assertions spot cause) : validateAll assertions ≠ .ok () := by
  obtain ⟨e, he, hviolation⟩ := h
  intro hok
  exact hviolation.fails.not_ok (validateAll_ok_iff.mp hok e he)

/-! ### The validator reports the first violation -/

theorem validateActions_error {xs : List Action} {flaw : AssertionFlaw}
    (h : validateActions xs = .error flaw) :
    ∃ (k : Nat) (x : Action), xs[k]? = some x ∧ x.validate = .error flaw ∧
      ∀ j < k, ∀ y, xs[j]? = some y → y.validate = .ok () := by
  induction xs with
  | nil => cases h
  | cons x xs ih =>
    rw [validateActions] at h
    cases hx : x.validate with
    | error flaw' =>
      rw [hx] at h
      obtain rfl := Except.error.inj h
      exact ⟨0, x, rfl, hx, fun j hj => absurd hj (Nat.not_lt_zero j)⟩
    | ok =>
      rw [hx] at h
      obtain ⟨k, y, hy, herror, hbefore⟩ := ih h
      refine ⟨k + 1, y, hy, herror, fun j hj z hz => ?_⟩
      cases j with
      | zero =>
        obtain rfl := Option.some.inj hz
        exact hx
      | succ j => exact hbefore j (Nat.lt_of_succ_lt_succ hj) z hz

theorem validateAll_error {assertions : Named Assertion} {flaw : AssertionFlaw}
    (h : validateAll assertions = .error flaw) :
    ∃ before name a after, assertions = before ++ (name, a) :: after ∧
      validateAll before = .ok () ∧
      (Text.isBlankText name = true ∧ flaw = .unnamed ∨
        Text.isBlankText name = false ∧
          ∃ cause, a.validate = .error cause ∧ flaw = .inside name cause) := by
  induction assertions with
  | nil => cases h
  | cons e assertions ih =>
    obtain ⟨name, a⟩ := e
    rw [validateAll] at h
    cases hname : Text.isBlankText name with
    | true =>
      rw [if_pos hname] at h
      exact ⟨[], name, a, assertions, rfl, rfl, Or.inl ⟨hname, (Except.error.inj h).symm⟩⟩
    | false =>
      rw [if_neg (by simp [hname])] at h
      cases ha : a.validate with
      | error cause =>
        rw [ha] at h
        exact ⟨[], name, a, assertions, rfl, rfl,
          Or.inr ⟨hname, cause, ha, (Except.error.inj h).symm⟩⟩
      | ok =>
        rw [ha] at h
        obtain ⟨before, name', b, after, rfl, hbefore, hflaw⟩ := ih h
        refine ⟨(name, a) :: before, name', b, after, rfl, ?_, hflaw⟩
        rw [validateAll_ok_iff] at hbefore ⊢
        exact List.forall_mem_cons.mpr ⟨⟨hname, ha⟩, hbefore⟩

theorem Assertion.validate_error {a : Assertion} {flaw : AssertionFlaw}
    (h : a.validate = .error flaw) : a.condition.Lacks flaw ∨
      a.condition.validate = .ok () ∧ validateActions a.actions = .error flaw := by
  obtain ⟨condition, order, actions⟩ := a
  rw [validate] at h
  cases hcondition : condition.validate with
  | error cause =>
    rw [hcondition] at h
    obtain rfl := Except.error.inj h
    exact Or.inl (Condition.validate_error_iff.mp hcondition)
  | ok =>
    rw [hcondition] at h
    exact Or.inr ⟨rfl, h⟩

namespace Spot.First

variable {name : String} {a : Assertion} {k : Nat}

theorem of_blank (hname : Text.isBlankText name = true) :
    First (Violation name a) (.name name) .unnamed where
  holds := .name a hname
  first spot cause h := by
    have hassertion := h.assertion_eq
    cases spot with
    | name => exact Or.inl (congrArg Spot.name hassertion)
    | parameters | action | within =>
      refine Or.inr (.turn hassertion.symm ?_)
      simp [turn]

theorem of_parameters (hname : Text.isBlankText name = false) {cause : AssertionFlaw}
    (hlacks : a.condition.Lacks cause) :
    First (Violation name a) (.parameters name) cause where
  holds := .parameters name hlacks
  first spot cause' h := by
    have hassertion := h.assertion_eq
    cases h with
    | name _ hblank =>
      rw [hblank] at hname
      cases hname
    | parameters => exact Or.inl rfl
    | action | within =>
      refine Or.inr (.turn hassertion.symm ?_)
      simp [turn]

theorem of_action (hclean : a.CleanTo name k) {x : Action} (hx : a.actions[k]? = some x)
    {cause : AssertionFlaw} (hlacks : x.Lacks cause) :
    First (Violation name a) (.action name k) cause where
  holds := .action name hx hlacks
  first spot cause' h := by
    have hassertion := h.assertion_eq
    rcases Nat.lt_or_eq_of_le (h.turn_le hclean) with hlt | heq
    · exact Or.inr (.turn hassertion.symm hlt)
    cases h with
    | name | parameters => simp [turn] at heq
    | action =>
      obtain rfl := Nat.add_right_cancel heq
      exact Or.inl rfl
    | within _ hinner hmem =>
      -- Only an empty set lacks anything itself, and there is nothing within that.
      obtain rfl := Nat.add_right_cancel heq
      obtain rfl := Option.some.inj (hinner.symm.trans hx)
      cases hlacks
      cases hmem

theorem of_within (hclean : a.CleanTo name k) {inner : Named Assertion}
    (hinner : a.actions[k]? = some (.assert inner)) {spot : Spot} {cause : AssertionFlaw}
    (hfirst : First (Violated inner) spot cause) :
    First (Violation name a) (.within name k spot) cause where
  holds := by
    obtain ⟨e, he, hviolation⟩ := hfirst.holds
    exact .within name hinner he hviolation
  first spot' cause' h := by
    have hassertion := h.assertion_eq
    rcases Nat.lt_or_eq_of_le (h.turn_le hclean) with hlt | heq
    · exact Or.inr (.turn hassertion.symm hlt)
    cases h with
    | name | parameters => simp [turn] at heq
    | action _ hx hlacks =>
      obtain rfl := Nat.add_right_cancel heq
      obtain rfl := Option.some.inj (hinner.symm.trans hx)
      obtain ⟨e, he, -⟩ := hfirst.holds
      cases hlacks
      cases he
    | within _ hinner' hmem hviolation =>
      obtain rfl := Nat.add_right_cancel heq
      obtain rfl := Action.assert.inj (Option.some.inj (hinner'.symm.trans hinner))
      rcases hfirst.first _ _ ⟨_, hmem, hviolation⟩ with rfl | hlater
      · exact Or.inl rfl
      · exact Or.inr (.within name _ hlater)

theorem of_split {before after : Named Assertion}
    (hascending : Named.Ascending (before ++ (name, a) :: after))
    (hbefore : validateAll before = .ok ()) {spot : Spot} {cause : AssertionFlaw}
    (hfirst : First (Violation name a) spot cause) :
    First (Violated (before ++ (name, a) :: after)) spot cause where
  holds := ⟨(name, a), by simp, hfirst.holds⟩
  first := by
    rintro spot' cause' ⟨e, he, hviolation⟩
    rcases List.mem_append.mp he with he | he
    · exact absurd hbefore (Violated.not_ok ⟨e, he, hviolation⟩)
    rcases List.mem_cons.mp he with rfl | he
    · exact hfirst.first spot' cause' hviolation
    · -- The validator goes by position, the walk by name; here they agree.
      have hafter := (List.pairwise_append.mp hascending).2.1
      have hlt := (List.pairwise_cons.mp hafter).1 e he
      refine Or.inr (.name ?_)
      rw [hfirst.holds.assertion_eq, hviolation.assertion_eq]
      exact hlt

end Spot.First

theorem Assertion.first_violation {name : String} {a : Assertion} {flaw : AssertionFlaw}
    (hname : Text.isBlankText name = false) (h : a.validate = .error flaw)
    (hinner : ∀ inner, .assert inner ∈ a.actions → ∀ flaw, validateAll inner = .error flaw →
      ∃ spot cause, Spot.First (Violated inner) spot cause ∧ flaw = spot.report cause) :
    ∃ spot cause, Spot.First (Violation name a) spot cause ∧
      .inside name flaw = spot.report cause := by
  rcases Assertion.validate_error h with hlacks | ⟨hcondition, hactions⟩
  · exact ⟨_, flaw, .of_parameters hname hlacks, rfl⟩
  obtain ⟨k, x, hx, herror, hbefore⟩ := validateActions_error hactions
  have hclean : a.CleanTo name k := ⟨hname, hcondition, hbefore⟩
  rcases Action.validate_error_iff.mp herror with hlacks | ⟨inner, cause, rfl, hcause, rfl⟩
  · exact ⟨_, flaw, .of_action hclean hx hlacks, rfl⟩
  · obtain ⟨spot, cause', hfirst, rfl⟩ := hinner inner (List.mem_of_getElem? hx) cause hcause
    exact ⟨_, cause', .of_within hclean hx hfirst, rfl⟩

theorem first_violation {whole : Named Assertion} (hordered : Ordered whole) {flaw : AssertionFlaw}
    (h : validateAll whole = .error flaw) :
    ∃ spot cause, Spot.First (Violated whole) spot cause ∧ flaw = spot.report cause := by
  -- On sets within sets: only a violation in an action of the first invalid assertion goes deeper.
  induction whole using sets_induction generalizing flaw with
  | step whole ih =>
    obtain ⟨before, name, a, after, rfl, hbefore, hflaw⟩ := validateAll_error h
    have hascending := hordered _ .whole
    rcases hflaw with ⟨hname, rfl⟩ | ⟨hname, cause, hcause, rfl⟩
    · exact ⟨_, _, .of_split hascending hbefore (.of_blank hname), rfl⟩
    · have hmem : (name, a) ∈ before ++ (name, a) :: after := by simp
      obtain ⟨spot, cause', hfirst, hreport⟩ := Assertion.first_violation hname hcause
        fun inner hinner _ hflaw =>
          ih (name, a) hmem inner hinner (hordered.within (.action .whole hmem hinner)) hflaw
      exact ⟨spot, cause', .of_split hascending hbefore hfirst, hreport⟩

/-! ### One cause at each spot -/

theorem Violation.cause_unique {name : String} {a : Assertion} {spot : Spot}
    {cause cause' : AssertionFlaw} (h : Violation name a spot cause)
    (hordered : ∀ inner, .assert inner ∈ a.actions → Ordered inner)
    (h' : Violation name a spot cause') : cause' = cause := by
  induction h with
  | name =>
    cases h'
    rfl
  | parameters n hlacks =>
    cases h' with
    | parameters _ hlacks' =>
      rw [← Condition.validate_error_iff] at hlacks hlacks'
      exact Except.error.inj (hlacks'.symm.trans hlacks)
  | action n hx hlacks =>
    cases h' with
    | action _ hx' hlacks' =>
      obtain rfl := Option.some.inj (hx'.symm.trans hx)
      have herror := Action.validate_error_iff.mpr (Or.inl hlacks)
      have herror' := Action.validate_error_iff.mpr (Or.inl hlacks')
      exact Except.error.inj (herror'.symm.trans herror)
  | @within a b inner m k spot cause n hinner hmem hviolation ih =>
    cases h' with
    | @within _ b' inner' m' _ _ _ _ hinner' hmem' hviolation' =>
      obtain rfl := Action.assert.inj (Option.some.inj (hinner'.symm.trans hinner))
      have hset := hordered _ (List.mem_of_getElem? hinner)
      have hname := hviolation'.assertion_eq.symm.trans hviolation.assertion_eq
      obtain ⟨rfl, rfl⟩ := Prod.mk.inj ((hset _ .whole).eq_of_name_eq hmem' hmem hname)
      refine ih (fun part hpart => ?_) hviolation'
      exact hset.within (.action .whole hmem hpart)

theorem Violated.cause_unique {whole : Named Assertion} (hordered : Ordered whole) {spot : Spot}
    {cause cause' : AssertionFlaw} (h : Violated whole spot cause)
    (h' : Violated whole spot cause') : cause' = cause := by
  obtain ⟨e, he, hviolation⟩ := h
  obtain ⟨e', he', hviolation'⟩ := h'
  have hname := hviolation'.assertion_eq.symm.trans hviolation.assertion_eq
  obtain rfl := (hordered _ .whole).eq_of_name_eq he' he hname
  exact hviolation.cause_unique
    (fun inner hinner => hordered.within (.action .whole he hinner)) hviolation'

/-! ### Groups -/

theorem Group.validate_error_iff {g : Group} (hordered : Ordered g.assertions)
    {flaw : AssertionFlaw} : g.validate = .error flaw ↔
      ∃ spot cause, Spot.First (Violated g.assertions) spot cause ∧ flaw = spot.report cause := by
  constructor
  · exact first_violation hordered
  · rintro ⟨spot, cause, hfirst, rfl⟩
    unfold validate
    cases hvalid : validateAll g.assertions with
    | ok => exact absurd hvalid (Violated.not_ok hfirst.holds)
    | error flaw =>
      obtain ⟨spot', cause', hfirst', rfl⟩ := first_violation hordered hvalid
      obtain rfl := hfirst.unique hfirst'
      rw [Violated.cause_unique hordered hfirst.holds hfirst'.holds]

/-- A group is refused only for what is wrong with it, and then for what is wrong first. -/
theorem Group.validate_judges (g : Group) (hordered : Ordered g.assertions) :
    (g.validate = .ok () ↔ ∀ part, Within g.assertions part → ∀ e ∈ part, e.2.WellFormed e.1) ∧
      ∀ flaw, g.validate = .error flaw ↔
        ∃ spot cause, Spot.First (Violated g.assertions) spot cause ∧
          flaw = spot.report cause ∧
          flaw.message = ": ".intercalate (spot.contexts ++ [cause.message]) := by
  refine ⟨g.validate_ok_iff, fun flaw => ?_⟩
  rw [Group.validate_error_iff hordered]
  constructor
  · rintro ⟨spot, cause, hfirst, rfl⟩
    exact ⟨spot, cause, hfirst, rfl, spot.report_message cause⟩
  · rintro ⟨spot, cause, hfirst, hflaw, -⟩
    exact ⟨spot, cause, hfirst, hflaw⟩

/-- In the second assertion there is a set with a hash that is too short; the assertions after it
have violations, too. -/
def crooked : Group where
  name := "site"
  assertions :=
    [("motd", { condition := { kind := .fileExists, filePath := "/etc/motd" }, actions := [.fail] }),
      ("web", {
        condition := { kind := .fileAbsent, filePath := "/srv/stale" }
        actions := [.copyFile "page" "/srv/page", .assert [
          ("conf", { condition := { kind := .hashEquals, filePath := "/srv/conf", hash := "0a1b" } }),
          ("page", { condition := { kind := .fileExists } })]] }),
      ("zone", { condition := { kind := .unknown "zone", filePath := "/etc/zone" } })]

theorem crooked_ordered : Ordered crooked.assertions := by
  have hwhole : crooked.assertions.Pairwise fun e e' => e.1 < e'.1 := by decide +kernel
  refine .of_actions hwhole fun e he inner hinner => ?_
  simp only [crooked, List.mem_cons, List.not_mem_nil, or_false] at he
  rcases he with rfl | rfl | rfl
  · simp at hinner
  · simp only [List.mem_cons, reduceCtorEq, Action.assert.injEq, List.not_mem_nil, or_false,
      false_or] at hinner
    subst hinner
    have hset : "conf" < "page" := by decide +kernel
    refine .of_actions (List.pairwise_pair.mpr hset) fun e he inner hinner => ?_
    simp only [List.mem_cons, List.not_mem_nil, or_false] at he
    rcases he with rfl | rfl <;> cases hinner
  · cases hinner

def crookedFlaw : AssertionFlaw := .inside "web" (.nested (.inside "conf" .malformedHash))

theorem crooked_judged : Ordered crooked.assertions ∧
    ∃ spot cause, Spot.First (Violated crooked.assertions) spot cause ∧
      crookedFlaw = spot.report cause ∧
      crookedFlaw.message = ": ".intercalate (spot.contexts ++ [cause.message]) := by
  have hrefused : crooked.validate = .error crookedFlaw := rfl
  exact ⟨crooked_ordered,
    ((crooked.validate_judges crooked_ordered).2 crookedFlaw).mp hrefused⟩

end Upkeep
