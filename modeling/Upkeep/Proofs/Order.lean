import Upkeep.Assertion.Order

/-!
The order of a set of assertions is a total order on its entries, so that sorting gives every entry
once and each before those that it precedes.
-/

set_option autoImplicit false

namespace Upkeep

theorem precedes_iff (a b : String × Assertion) :
    precedes a b = true ↔ a.2.effectiveOrder < b.2.effectiveOrder ∨
      (a.2.effectiveOrder = b.2.effectiveOrder ∧ a.1 ≤ b.1) := by
  simp [precedes]

theorem precedes_trans (a b c : String × Assertion) (hab : precedes a b = true)
    (hbc : precedes b c = true) : precedes a c = true := by
  rw [precedes_iff] at *
  rcases hab with hab | ⟨hab, hnames⟩
  · rcases hbc with hbc | ⟨hbc, _⟩
    · exact Or.inl (Int64.lt_trans hab hbc)
    · exact Or.inl (hbc ▸ hab)
  · rcases hbc with hbc | ⟨hbc, hnames'⟩
    · exact Or.inl (hab ▸ hbc)
    · exact Or.inr ⟨hab.trans hbc, String.le_trans hnames hnames'⟩

theorem precedes_total (a b : String × Assertion) : (precedes a b || precedes b a) = true := by
  rw [Bool.or_eq_true, precedes_iff, precedes_iff]
  by_cases he : a.2.effectiveOrder = b.2.effectiveOrder
  · rcases String.le_total a.1 b.1 with h | h
    · exact Or.inl (Or.inr ⟨he, h⟩)
    · exact Or.inr (Or.inr ⟨he.symm, h⟩)
  · rcases Int64.le_total a.2.effectiveOrder b.2.effectiveOrder with h | h
    · exact Or.inl (Or.inl (Int64.lt_of_le_of_ne h he))
    · exact Or.inr (Or.inl (Int64.lt_of_le_of_ne h (Ne.symm he)))

theorem sorted_perm (assertions : Named Assertion) : (sorted assertions).Perm assertions :=
  List.mergeSort_perm assertions precedes

theorem sorted_pairwise (assertions : Named Assertion) :
    (sorted assertions).Pairwise fun a b => a.2.effectiveOrder < b.2.effectiveOrder ∨
      (a.2.effectiveOrder = b.2.effectiveOrder ∧ a.1 ≤ b.1) :=
  (List.pairwise_mergeSort precedes_trans precedes_total assertions).imp (precedes_iff _ _).mp

end Upkeep
