import Mathlib.Data.List.Induction
import Mathlib.Data.List.Nodup
import Upkeep.Named

/-!
Storing under names keeps the names in ascending order, so entries that are in that order already
are stored as they stand. In that order no name occurs twice, and what has been stored is known by
what is found under each name.
-/

set_option autoImplicit false

namespace Upkeep.Named

variable {α : Type}

theorem mem_insert {name : String} {x : α} {m : Named α} {e : String × α}
    (h : e ∈ insert name x m) : e = (name, x) ∨ e ∈ m := by
  induction m with
  | nil => exact Or.inl (List.mem_singleton.mp h)
  | cons other rest ih =>
    obtain ⟨name', y⟩ := other
    rw [insert] at h
    split at h
    · exact List.mem_cons.mp h
    · split at h
      · exact (List.mem_cons.mp h).imp_right (.tail _)
      · rcases List.mem_cons.mp h with rfl | h
        · exact Or.inr (.head rest)
        · exact (ih h).imp_right (.tail _)

theorem Ascending.insert {m : Named α} (hm : m.Ascending) (name : String) (x : α) :
    Ascending (m.insert name x) := by
  induction m with
  | nil => exact List.pairwise_singleton _ _
  | cons other rest ih =>
    obtain ⟨name', y⟩ := other
    obtain ⟨hother, hrest⟩ := List.pairwise_cons.mp hm
    rw [Named.insert]
    by_cases hlt : name < name'
    · rw [if_pos hlt]
      refine List.pairwise_cons.mpr ⟨fun e he => ?_, hm⟩
      rcases List.mem_cons.mp he with rfl | he
      · exact hlt
      · exact String.lt_trans hlt (hother e he)
    rw [if_neg hlt]
    by_cases heq : name = name'
    · subst heq
      rw [if_pos rfl]
      exact List.pairwise_cons.mpr ⟨hother, hrest⟩
    · rw [if_neg heq]
      refine List.pairwise_cons.mpr ⟨fun e he => ?_, ih hrest⟩
      rcases mem_insert he with rfl | he
      · exact Std.lt_of_le_of_ne (String.not_lt.mp hlt) (Ne.symm heq)
      · exact hother e he

/-- A name beyond all others goes to the end. -/
theorem insert_last {m : Named α} {name : String} (hm : ∀ e ∈ m, e.1 < name) (x : α) :
    insert name x m = m ++ [(name, x)] := by
  induction m with
  | nil => rfl
  | cons other rest ih =>
    obtain ⟨name', y⟩ := other
    have hother : name' < name := hm _ (.head rest)
    rw [insert, if_neg (String.lt_asymm hother), if_neg (String.ne_of_lt hother).symm,
      ih fun e he => hm e (.tail _ he), List.cons_append]

theorem ofList_append_singleton (entries : List (String × α)) (e : String × α) :
    ofList (entries ++ [e]) = (ofList entries).insert e.1 e.2 := by
  simp [ofList]

theorem ofList_ascending (entries : List (String × α)) : (ofList entries).Ascending := by
  induction entries using List.reverseRecOn with
  | nil => exact .nil
  | append_singleton entries e ih =>
    rw [ofList_append_singleton]
    exact ih.insert e.1 e.2

theorem mem_ofList {entries : List (String × α)} {e : String × α} (h : e ∈ ofList entries) :
    e ∈ entries := by
  induction entries using List.reverseRecOn with
  | nil => cases h
  | append_singleton entries last ih =>
    rw [ofList_append_singleton] at h
    rcases mem_insert h with rfl | h
    · exact List.mem_append_right _ (.head _)
    · exact List.mem_append_left _ (ih h)

theorem Ascending.ofList_eq {m : Named α} (hm : m.Ascending) : ofList m = m := by
  induction m using List.reverseRecOn with
  | nil => rfl
  | append_singleton m last ih =>
    obtain ⟨hfirst, -, hlast⟩ := List.pairwise_append.mp hm
    rw [ofList_append_singleton, ih hfirst]
    exact insert_last (fun e he => hlast e he last (.head _)) last.2

theorem Ascending.eq_of_name_eq {m : Named α} (hm : m.Ascending)
    {e e' : String × α} (he : e ∈ m) (he' : e' ∈ m) (hname : e.1 = e'.1) : e = e' := by
  induction m with
  | nil => cases he
  | cons first m ih =>
    obtain ⟨hfirst, hrest⟩ := List.pairwise_cons.mp hm
    rcases List.mem_cons.mp he with rfl | hlater
    · rcases List.mem_cons.mp he' with rfl | hlater'
      · rfl
      · exact absurd hname (String.ne_of_lt (hfirst e' hlater'))
    · rcases List.mem_cons.mp he' with rfl | hlater'
      · exact absurd hname.symm (String.ne_of_lt (hfirst e hlater))
      · exact ih hrest hlater hlater'

/-! ### Looking up -/

theorem lookup_cons (path name : String) (x : α) (m : Named α) :
    List.lookup path ((name, x) :: m) = if path = name then some x else m.lookup path := by
  by_cases h : path = name
  · simp [h]
  · rw [List.lookup_cons, if_neg h, beq_false_of_ne h]

theorem lookup_insert (path name : String) (x : α) (m : Named α) :
    (m.insert name x).lookup path = if path = name then some x else m.lookup path := by
  induction m with
  | nil => rw [insert, lookup_cons]
  | cons first rest ih =>
    obtain ⟨other, y⟩ := first
    rw [insert]
    split
    · rw [lookup_cons]
    split
    · subst other
      by_cases h : path = name <;> simp [lookup_cons, h]
    · rename_i hne
      by_cases h : path = name
      · subst path
        rw [lookup_cons, if_neg hne, ih, if_pos rfl, if_pos rfl]
      · simp only [lookup_cons, ih, if_neg h]

theorem lookup_replace (path name : String) (x : α) (m : Named α) :
    (m.replace name x).lookup path =
      if path = name then (m.lookup path).map fun _ => x else m.lookup path := by
  induction m with
  | nil => simp [replace]
  | cons first rest ih =>
    obtain ⟨other, y⟩ := first
    have hcons : replace name x ((other, y) :: rest) =
        (if other = name then (name, x) else (other, y)) :: replace name x rest := rfl
    rw [hcons]
    split
    · subst other
      by_cases h : path = name <;> simp [lookup_cons, ih, h]
    · rename_i hne
      by_cases h : path = name
      · subst path
        simp only [lookup_cons, ih, if_neg (Ne.symm hne)]
      · simp only [lookup_cons, ih, if_neg h]

theorem Ascending.nodup {m : Named α} (hm : m.Ascending) : (m.map (·.1)).Nodup := by
  refine List.pairwise_map.mpr (hm.imp fun hlt heq => ?_)
  rw [heq] at hlt
  exact String.lt_irrefl _ hlt

theorem Ascending.lookup_eq_some_iff {m : Named α} (hm : m.Ascending) {name : String} {x : α} :
    m.lookup name = some x ↔ (name, x) ∈ m := by
  induction m with
  | nil => simp
  | cons first rest ih =>
    obtain ⟨other, y⟩ := first
    obtain ⟨hother, hrest⟩ := List.pairwise_cons.mp hm
    rw [lookup_cons, List.mem_cons]
    by_cases h : name = other
    · subst h
      have hnot : (name, x) ∉ rest := fun he => String.lt_irrefl name (hother (name, x) he)
      simp [hnot, eq_comm]
    · simp [h, ih hrest]

/-- What is found under a name is what has been stored there last. -/
theorem lookup_ofList (entries : List (String × α)) (name : String) :
    (ofList entries).lookup name = entries.reverse.lookup name := by
  induction entries using List.reverseRecOn with
  | nil => rfl
  | append_singleton entries last ih =>
    rw [ofList_append_singleton, lookup_insert, ih, List.reverse_append, List.reverse_singleton,
      List.singleton_append, lookup_cons]

theorem Ascending.ext {m m' : Named α} (hm : m.Ascending) (hm' : m'.Ascending)
    (h : ∀ name, m.lookup name = m'.lookup name) : m = m' := by
  have hmem : ∀ e, e ∈ m ↔ e ∈ m' := by
    intro e
    rw [← hm.lookup_eq_some_iff, ← hm'.lookup_eq_some_iff, h]
  have hperm : m.Perm m' :=
    (List.perm_ext_iff_of_nodup (hm.nodup.of_map _) (hm'.nodup.of_map _)).mpr hmem
  apply hperm.eq_of_pairwise _ hm hm'
  intro e e' _ _ hlt hgt
  exact absurd hgt (String.lt_asymm hlt)

end Upkeep.Named
