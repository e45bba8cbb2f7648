import Upkeep.Proofs.Digests
import Upkeep.Proofs.Within
import Upkeep.Proofs.Written

/-!
What the validator accepts: the groups in which every assertion is well formed, in nested sets too.
Of an assertion or an action that is not, `Lacks` says what is wrong with it itself.
-/

set_option autoImplicit false

namespace Upkeep

/-! ### Well-formed assertions -/

/-- Whether a condition has what its kind needs apart from the path of the file. -/
def Condition.Supplied (c : Condition) : Prop :=
  match c.kind with
  | .fileExists | .fileAbsent => True
  | .hashEquals => c.hash ≠ "" ∧ WholeDigest c.hash
  | .matchesLocalFile => c.basePath ≠ ""
  | .regexMatches => c.regex ≠ ""
  | .unknown _ => False

def Action.WellFormed : Action → Prop
  | .unset | .fail => True
  | .copyFile source destination => source ≠ "" ∧ destination ≠ ""
  | .assert inner => inner ≠ []
  | .unrecognised _ => False

structure Assertion.WellFormed (name : String) (a : Assertion) : Prop where
  named : Text.isBlankText name = false
  path : a.condition.filePath ≠ ""
  supplied : a.condition.Supplied
  actions : ∀ x ∈ a.actions, x.WellFormed

/-! ### What one part lacks -/

inductive Condition.Lacks (c : Condition) : AssertionFlaw → Prop where
  | path : c.kind = .fileExists ∨ c.kind = .fileAbsent → c.filePath = "" → c.Lacks .noPath
  | hash : c.kind = .hashEquals → c.hash = "" ∨ c.filePath = "" → c.Lacks .noHash
  | digest : c.kind = .hashEquals → c.hash ≠ "" → c.filePath ≠ "" → ¬ WholeDigest c.hash →
      c.Lacks .malformedHash
  | reference : c.kind = .matchesLocalFile → c.basePath = "" ∨ c.filePath = "" →
      c.Lacks .noReference
  | pattern : c.kind = .regexMatches → c.regex = "" ∨ c.filePath = "" → c.Lacks .noPattern
  | unsupported {kind : String} : c.kind = .unknown kind → c.Lacks (.unsupportedKind kind)

/-- What an action lacks itself; not what an assertion in it lacks. -/
inductive Action.Lacks : Action → AssertionFlaw → Prop where
  | paths {source destination : String} : source = "" ∨ destination = "" →
      Lacks (.copyFile source destination) .noCopyPaths
  | empty : Lacks (.assert []) .emptySet
  | unsupported (kind : String) : Lacks (.unrecognised kind) (.unsupportedAction kind)

theorem Condition.validate_error_iff {c : Condition} {flaw : AssertionFlaw} :
    c.validate = .error flaw ↔ c.Lacks flaw := by
  constructor
  · intro h
    unfold validate at h
    split at h <;> rename_i hkind
    · split_ifs at h with hpath
      obtain rfl := Except.error.inj h
      exact .path (Or.inl hkind) hpath
    · split_ifs at h with hpath
      obtain rfl := Except.error.inj h
      exact .path (Or.inr hkind) hpath
    · split_ifs at h with hnone hwhole
      · obtain rfl := Except.error.inj h
        exact .hash hkind hnone
      · obtain rfl := Except.error.inj h
        obtain ⟨hhash, hpath⟩ := not_or.mp hnone
        exact .digest hkind hhash hpath (mt isDigest_iff.mpr hwhole)
    · split_ifs at h with hnone
      obtain rfl := Except.error.inj h
      exact .reference hkind hnone
    · split_ifs at h with hnone
      obtain rfl := Except.error.inj h
      exact .pattern hkind hnone
    · obtain rfl := Except.error.inj h
      exact .unsupported hkind
  · intro h
    cases h with
    | path hkind hpath => rcases hkind with hkind | hkind <;> simp [validate, hkind, hpath]
    | hash hkind hnone => simp only [validate, hkind, if_pos hnone]
    | digest hkind hhash hpath hwhole => simp [validate, hkind, hhash, hpath, isDigest_iff, hwhole]
    | reference hkind hnone | pattern hkind hnone => simp only [validate, hkind, if_pos hnone]
    | unsupported hkind => simp only [validate, hkind]

theorem Condition.validate_ok_iff {c : Condition} :
    c.validate = .ok () ↔ c.filePath ≠ "" ∧ c.Supplied := by
  unfold validate Supplied
  cases c.kind with
  | fileExists | fileAbsent => simp
  | matchesLocalFile | regexMatches => simp [and_comm]
  | unknown => simp
  | hashEquals =>
    by_cases hhash : c.hash = ""
    · simp [hhash]
    · by_cases hpath : c.filePath = "" <;> simp [hhash, hpath, isDigest_iff]

theorem Action.validate_error_iff {x : Action} {flaw : AssertionFlaw} :
    x.validate = .error flaw ↔ x.Lacks flaw ∨
      ∃ inner cause, x = .assert inner ∧ validateAll inner = .error cause ∧
        flaw = .nested cause := by
  constructor
  · intro h
    cases x with
    | unset | fail => cases h
    | copyFile source destination =>
      rw [validate] at h
      split_ifs at h with hnone
      obtain rfl := Except.error.inj h
      exact Or.inl (.paths hnone)
    | unrecognised kind =>
      obtain rfl := Except.error.inj h
      exact Or.inl (.unsupported kind)
    | assert inner =>
      cases inner with
      | nil =>
        obtain rfl := Except.error.inj h
        exact Or.inl .empty
      | cons e inner =>
        rw [validate] at h
        cases hinner : validateAll (e :: inner) with
        | ok => rw [hinner] at h; cases h
        | error cause =>
          rw [hinner] at h
          exact Or.inr ⟨_, cause, rfl, hinner, (Except.error.inj h).symm⟩
  · rintro (h | ⟨inner, cause, rfl, hinner, rfl⟩)
    · cases h with
      | paths hnone => rw [validate, if_pos hnone]
      | empty | unsupported => rfl
    · cases inner with
      | nil => cases hinner
      | cons e inner =>
        rw [validate, hinner]
        rfl

theorem Action.validate_ok_iff {x : Action} : x.validate = .ok () ↔
    x.WellFormed ∧ ∀ inner, x = .assert inner → validateAll inner = .ok () := by
  cases x with
  | unset | fail | unrecognised kind => simp [validate, WellFormed]
  | copyFile source destination => simp [validate, WellFormed]
  | assert inner => simp [validate_assert_ok_iff, WellFormed]

/-! ### The validator accepts what is well formed -/

theorem Group.validate_ok_iff (g : Group) : g.validate = .ok () ↔
    ∀ part, Within g.assertions part → ∀ e ∈ part, e.2.WellFormed e.1 := by
  constructor
  · intro h part hpart e he
    obtain ⟨hname, ha⟩ := validateAll_ok_iff.mp (hpart.validateAll h) e he
    obtain ⟨hcondition, hactions⟩ := Assertion.validate_ok_iff.mp ha
    obtain ⟨hpath, hsupplied⟩ := Condition.validate_ok_iff.mp hcondition
    exact ⟨hname, hpath, hsupplied, fun x hx => (Action.validate_ok_iff.mp (hactions x hx)).1⟩
  · unfold validate
    induction g.assertions using sets_induction with
    | step whole ih =>
      intro h
      rw [validateAll_ok_iff]
      intro e he
      have hformed := h whole .whole e he
      refine ⟨hformed.named, Assertion.validate_ok_iff.mpr ⟨?_, ?_⟩⟩
      · exact Condition.validate_ok_iff.mpr ⟨hformed.path, hformed.supplied⟩
      · intro x hx
        refine Action.validate_ok_iff.mpr ⟨hformed.actions x hx, ?_⟩
        rintro inner rfl
        apply ih e he inner hx
        intro part hpart
        exact h part (.trans (.action .whole he hx) hpart)

end Upkeep
