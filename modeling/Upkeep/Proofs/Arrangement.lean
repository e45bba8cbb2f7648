import Mathlib.Data.List.Forall2
import Upkeep.Proofs.Brackets
import Upkeep.Proofs.Names

/-!
The order of a set of assertions is settled by what is in the set. There is one arrangement of the
entries in which each has a lower rank than those after it, and sorting finds it. A run goes by that
arrangement, so it is the same in whatever order the entries have been stored, and whether or not
the usual order number is written out where none is stated.
-/

set_option autoImplicit false

namespace Upkeep

/-! ### Arrangements -/

/-- The order number, which is 1000 where none is stated. -/
def Assertion.rank (a : Assertion) : Int :=
  match a.order with
  | some order => order.toInt
  | none => 1000

/-- The one with the lower rank comes first, and of two with the same rank the one with the lower
name. -/
def Earlier (e e' : String × Assertion) : Prop :=
  e.2.rank < e'.2.rank ∨ (e.2.rank = e'.2.rank ∧ e.1 < e'.1)

structure Arranges (l : List (String × Assertion)) (m : Named Assertion) : Prop where
  entries : l.Perm m
  ascending : l.Pairwise Earlier

theorem Assertion.rank_eq (a : Assertion) : a.rank = a.effectiveOrder.toInt := by
  unfold rank effectiveOrder
  cases a.order <;> rfl

theorem Earlier.asymm {e e' : String × Assertion} (h : Earlier e e') : ¬ Earlier e' e := by
  intro h'
  rcases h with hrank | ⟨hrank, hname⟩
  · rcases h' with hrank' | ⟨hrank', _⟩
    · omega
    · omega
  · rcases h' with hrank' | ⟨_, hname'⟩
    · omega
    · exact String.lt_asymm hname hname'

theorem Arranges.unique {l l' : List (String × Assertion)} {m : Named Assertion}
    (h : Arranges l m) (h' : Arranges l' m) : l = l' := by
  have hperm : l.Perm l' := h.entries.trans h'.entries.symm
  apply hperm.eq_of_pairwise _ h.ascending h'.ascending
  intro e e' _ _ hee' he'e
  exact absurd he'e hee'.asymm

/-- Under distinct names, no two entries are left in doubt. -/
theorem sorted_arranges {m : Named Assertion} (hm : (m.map (·.1)).Nodup) :
    Arranges (sorted m) m where
  entries := sorted_perm m
  ascending := by
    have hnames : ((sorted m).map (·.1)).Nodup :=
      ((sorted_perm m).map (·.1)).nodup_iff.mpr hm
    apply ((sorted_pairwise m).and (List.pairwise_map.mp hnames)).imp
    rintro e e' ⟨horder, hname⟩
    unfold Earlier
    rw [e.2.rank_eq, e'.2.rank_eq]
    rcases horder with hlt | ⟨heq, hle⟩
    · exact Or.inl (Int64.lt_iff_toInt_lt.mp hlt)
    · refine Or.inr ⟨congrArg Int64.toInt heq, ?_⟩
      exact Std.lt_of_le_of_ne hle hname

theorem arranges_iff {m : Named Assertion} (hm : (m.map (·.1)).Nodup)
    {l : List (String × Assertion)} : Arranges l m ↔ l = sorted m := by
  constructor
  · intro h
    exact h.unique (sorted_arranges hm)
  · rintro rfl
    exact sorted_arranges hm

theorem sorted_eq_of_perm {m m' : Named Assertion} (hm : (m.map (·.1)).Nodup)
    (h : m'.Perm m) : sorted m' = sorted m := by
  apply (arranges_iff hm).mp
  have hm' : (m'.map (·.1)).Nodup := (h.map (·.1)).nodup_iff.mpr hm
  exact ⟨(sorted_perm m').trans h, (sorted_arranges hm').ascending⟩

/-! ### Order numbers that are written out -/

mutual

/-- The second assertion is the first with 1000 written out as the order number in some of the
places, its nested sets included, where none is stated. -/
inductive Assertion.SpeltOut : Assertion → Assertion → Prop where
  | intro {condition : Condition} {order order' : Option Int64} {actions actions' : List Action} :
      order' = order ∨ (order = none ∧ order' = some 1000) →
      List.Forall₂ Action.SpeltOut actions actions' →
      Assertion.SpeltOut ⟨condition, order, actions⟩ ⟨condition, order', actions'⟩

inductive Action.SpeltOut : Action → Action → Prop where
  | same (x : Action) : Action.SpeltOut x x
  | set {assertions assertions' : Named Assertion} :
      List.Forall₂ EntrySpeltOut assertions assertions' →
      Action.SpeltOut (.assert assertions) (.assert assertions')

inductive EntrySpeltOut : String × Assertion → String × Assertion → Prop where
  | intro (name : String) {a a' : Assertion} :
      Assertion.SpeltOut a a' → EntrySpeltOut (name, a) (name, a')

end

/-- Set by set, the entries of the second are those of the first, up to order numbers that are
written out. -/
abbrev AllSpeltOut (m m' : Named Assertion) : Prop := List.Forall₂ EntrySpeltOut m m'

theorem EntrySpeltOut.name_eq {e e' : String × Assertion} (h : EntrySpeltOut e e') :
    e'.1 = e.1 := by
  cases h with
  | intro name h => rfl

theorem EntrySpeltOut.effectiveOrder_eq {e e' : String × Assertion} (h : EntrySpeltOut e e') :
    e'.2.effectiveOrder = e.2.effectiveOrder := by
  cases h with
  | intro name h =>
    cases h with
    | intro horder =>
      rcases horder with rfl | ⟨rfl, rfl⟩
      · rfl
      · rfl

theorem AllSpeltOut.names_eq {m m' : Named Assertion} (h : AllSpeltOut m m') :
    m'.map (·.1) = m.map (·.1) := by
  induction h with
  | nil => rfl
  | cons hentry _ ih => rw [List.map_cons, List.map_cons, hentry.name_eq, ih]

/-- Sorting compares the same numbers and names on both sides, so it does the same with both. -/
theorem sorted_speltOut {m m' : Named Assertion} (h : AllSpeltOut m m') :
    AllSpeltOut (sorted m) (sorted m') := by
  obtain ⟨hlength, hentries⟩ := List.forall₂_iff_zip.mp h
  let pairs := m.zip m'
  let earlier (p q : (String × Assertion) × String × Assertion) : Bool := precedes p.1 q.1
  have hfst : (pairs.mergeSort earlier).map (·.1) = sorted m := by
    rw [List.map_mergeSort (s := precedes) fun _ _ _ _ => rfl, List.map_fst_zip (Nat.le_of_eq hlength)]
    rfl
  have hsnd : (pairs.mergeSort earlier).map (·.2) = sorted m' := by
    rw [List.map_mergeSort (s := precedes), List.map_snd_zip (Nat.le_of_eq hlength.symm)]
    · rfl
    intro p hp q hq
    have hp' := hentries hp
    have hq' := hentries hq
    simp only [earlier, precedes, hp'.effectiveOrder_eq, hq'.effectiveOrder_eq, hp'.name_eq,
      hq'.name_eq]
  rw [← hfst, ← hsnd, AllSpeltOut, List.forall₂_map_left_iff, List.forall₂_map_right_iff,
    List.forall₂_same]
  intro p hp
  exact hentries ((List.mergeSort_perm pairs earlier).mem_iff.mp hp)

/-! ### Runs -/

section

variable {σ : Type} {disk : σ → Disk} {t : Target σ}
  {nested : String → Named Assertion → Step σ Unit}
  (hnested : ∀ parent m m', AllSpeltOut m m' → nested parent m' = nested parent m)
include hnested

theorem Action.SpeltOut.takeWith_eq {x x' : Action} (h : x.SpeltOut x') (parent : String) :
    x'.takeWith nested disk t parent = x.takeWith nested disk t parent := by
  cases h with
  | same => rfl
  | set h => exact hnested parent _ _ h

theorem takeAll_speltOut {xs xs' : List Action} (h : List.Forall₂ Action.SpeltOut xs xs')
    (parent : String) :
    takeAll (Action.takeWith nested disk t parent) xs' =
      takeAll (Action.takeWith nested disk t parent) xs := by
  induction h with
  | nil => rfl
  | cons hx _ ih => rw [takeAll, takeAll, hx.takeWith_eq hnested, ih]

theorem Assertion.SpeltOut.evaluateWith_eq {a a' : Assertion} (h : a.SpeltOut a')
    (group name : String) (p : Progress σ) :
    a'.evaluateWith nested disk t group name p = a.evaluateWith nested disk t group name p := by
  cases h with
  | intro _ hactions => simp only [evaluateWith, takeAll_speltOut hnested hactions]

theorem evaluateAllWith_speltOut {m m' : Named Assertion} (h : AllSpeltOut m m') (group : String) :
    evaluateAllWith nested disk t group m' = evaluateAllWith nested disk t group m := by
  induction h with
  | nil => rfl
  | cons hentry _ ih =>
    cases hentry with
    | intro name h =>
      funext p
      simp only [evaluateAllWith, h.evaluateWith_eq hnested, ih]

end

variable {σ : Type}

theorem evaluateNested_speltOut (disk : σ → Disk) (t : Target σ) (levels : Nat) :
    ∀ parent m m', AllSpeltOut m m' →
      evaluateNested disk t levels parent m' = evaluateNested disk t levels parent m := by
  induction levels with
  | zero =>
    intro parent m m' _
    rfl
  | succ levels ih =>
    intro parent m m' h
    rw [evaluateNested, evaluateNested, evaluateAllWith_speltOut ih (sorted_speltOut h)]

theorem evaluateAll_speltOut (disk : σ → Disk) (t : Target σ) {m m' : Named Assertion}
    (h : AllSpeltOut m m') (group : String) :
    evaluateAll disk t group m' = evaluateAll disk t group m := by
  funext p
  rw [evaluateAll, evaluateAll,
    evaluateAllWith_speltOut (evaluateNested_speltOut disk t _) (sorted_speltOut h)]

theorem evaluateAll_perm (disk : σ → Disk) (t : Target σ) {m m' : Named Assertion}
    (hm : (m.map (·.1)).Nodup) (h : m'.Perm m) (group : String) :
    evaluateAll disk t group m' = evaluateAll disk t group m := by
  funext p
  rw [evaluateAll, evaluateAll, sorted_eq_of_perm hm h]

/-- What a run of a set starts at its own level is an initial part of the arrangement, and all of it
if nothing fails. -/
theorem evaluateAll_level (disk : σ → Disk) (t : Target σ) (group : String) (m : Named Assertion)
    (p : Progress σ) :
    ∃ es, (evaluateAll disk t group m p).2.events = p.events ++ es ∧
      outermost 0 es <+: (sorted m).map (fun e => (group, e.1)) ∧
      ((evaluateAll disk t group m p).1 = .ok () →
        outermost 0 es = (sorted m).map fun e => (group, e.1)) := by
  obtain ⟨s, d, events, notes⟩ := p
  have hfollows : Step.Follows disk t d (.set group m) _ := .evaluateAll group m
  obtain ⟨record, r, s', notes', hrecord, hstep⟩ := hfollows s events notes
  rw [hstep]
  exact ⟨record.events, rfl, hrecord.bracketed.level⟩

/-- Sorting gives the one arrangement of a set, and a run starts the assertions by it. Neither
depends on how the entries came to be stored, nor on whether an order number of 1000 is stated. -/
theorem arrangement_settled (m : Named Assertion) (hm : m.Ascending) :
    (∀ l, Arranges l m ↔ l = sorted m) ∧
    (∀ entries, (∀ name, entries.reverse.lookup name = m.lookup name) →
      Named.ofList entries = m) ∧
    (∀ m', m'.Perm m → sorted m' = sorted m) ∧
    (∀ m', AllSpeltOut m m' → AllSpeltOut (sorted m) (sorted m')) ∧
    ∀ {σ : Type} (disk : σ → Disk) (t : Target σ) (group : String),
      (∀ p, ∃ es, (evaluateAll disk t group m p).2.events = p.events ++ es ∧
        outermost 0 es <+: (sorted m).map (fun e => (group, e.1)) ∧
        ((evaluateAll disk t group m p).1 = .ok () →
          outermost 0 es = (sorted m).map fun e => (group, e.1))) ∧
      ∀ m' m'', AllSpeltOut m m' → m''.Perm m' →
        evaluateAll disk t group m'' = evaluateAll disk t group m := by
  refine ⟨?_, ?_, ?_, ?_, ?_⟩
  · intro l
    exact arranges_iff hm.nodup
  · intro entries hentries
    apply (Named.ofList_ascending entries).ext hm
    intro name
    rw [Named.lookup_ofList, hentries]
  · intro m' hperm
    exact sorted_eq_of_perm hm.nodup hperm
  · intro m' hspelt
    exact sorted_speltOut hspelt
  · intro σ disk t group
    refine ⟨evaluateAll_level disk t group m, ?_⟩
    intro m' m'' hspelt hperm
    have hnames : (m'.map (·.1)).Nodup := by
      rw [hspelt.names_eq]
      exact hm.nodup
    rw [evaluateAll_perm disk t hnames hperm, evaluateAll_speltOut disk t hspelt]

/-- A file that must be there. -/
def Assertion.present (order : Option Int64) (actions : List Action) : Assertion :=
  ⟨{ kind := .fileExists, filePath := "/srv/a" }, order, actions⟩

/-- The least and the greatest order number, the usual one, and two that may be stated or not. -/
def assorted (order inner : Option Int64) : Named Assertion :=
  [("a", .present order [.assert [("c", .present inner [.fail])]]),
   ("b", .present (some Int64.maxValue) [.fail]),
   ("c", .present (some 1000) [.fail]),
   ("d", .present (some Int64.minValue) [.fail])]

theorem assorted_settled :
    (assorted none none).Ascending ∧
      (sorted (assorted none none)).map (·.1) = ["d", "a", "c", "b"] ∧
      ∀ (t : Target Disk) (group : String),
        evaluateAll id t group (assorted (some 1000) (some 1000)).reverse =
          evaluateAll id t group (assorted none none) := by
  have hascending : (assorted none none).Ascending := by
    unfold Named.Ascending
    decide +kernel
  have harranges : Arranges
      [("d", .present (some Int64.minValue) [.fail]),
       ("a", .present none [.assert [("c", .present none [.fail])]]),
       ("c", .present (some 1000) [.fail]),
       ("b", .present (some Int64.maxValue) [.fail])] (assorted none none) := by
    constructor
    · exact (List.Perm.swap _ _ _).trans ((List.reverse_perm _).symm.cons _)
    · unfold Earlier
      decide +kernel
  have hspelt : AllSpeltOut (assorted none none) (assorted (some 1000) (some 1000)) := by
    have hfail : List.Forall₂ Action.SpeltOut [.fail] [.fail] := .cons (.same _) .nil
    have hstated : ∀ name order,
        EntrySpeltOut (name, .present order [.fail]) (name, .present order [.fail]) := by
      intro name order
      exact .intro name (.intro (Or.inl rfl) hfail)
    have hinner : EntrySpeltOut ("c", .present none [.fail]) ("c", .present (some 1000) [.fail]) :=
      .intro "c" (.intro (Or.inr ⟨rfl, rfl⟩) hfail)
    refine .cons (.intro "a" (.intro (Or.inr ⟨rfl, rfl⟩) ?_))
      (.cons (hstated _ _) (.cons (hstated _ _) (.cons (hstated _ _) .nil)))
    exact .cons (.set (.cons hinner .nil)) .nil
  obtain ⟨hsorted, -, -, -, hruns⟩ := arrangement_settled (assorted none none) hascending
  refine ⟨hascending, ?_, ?_⟩
  · rw [← (hsorted _).mp harranges]
    rfl
  · intro t group
    exact (hruns id t group).2 _ _ hspelt (List.reverse_perm _)

end Upkeep
