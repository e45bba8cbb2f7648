/-!
Where one text stands in another.
-/

set_option autoImplicit false

namespace Upkeep.Text

/-- Whether one list stands somewhere in another. -/
def occursIn (part : List Char) : List Char → Bool
  | [] => part.isEmpty
  | c :: cs => part.isPrefixOf (c :: cs) || occursIn part cs

theorem occursIn_iff {part l : List Char} :
    occursIn part l = true ↔ ∃ before after, l = before ++ (part ++ after) := by
  induction l with
  | nil => cases part <;> simp [occursIn]
  | cons c cs ih =>
    simp only [occursIn, Bool.or_eq_true, List.isPrefixOf_iff_prefix, ih]
    constructor
    · rintro (⟨after, h⟩ | ⟨before, after, rfl⟩)
      · exact ⟨[], after, h.symm⟩
      · exact ⟨c :: before, after, rfl⟩
    · rintro ⟨before, after, h⟩
      cases before with
      | nil => exact .inl ⟨after, h.symm⟩
      | cons b before =>
        simp only [List.cons_append, List.cons.injEq] at h
        exact .inr ⟨before, after, h.2⟩

end Upkeep.Text
