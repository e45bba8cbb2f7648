import Upkeep.Proofs.Names
import Upkeep.Proofs.Within
import Upkeep.Spec.Load

/-!
Groups that a text or a file has given. Whatever the format, such a group is in normal form, nothing
in it is beyond what the evaluator knows, and all names in it ascend, in nested sets too.
-/

set_option autoImplicit false

namespace Upkeep

/-! ### What is read -/

theorem mem_mapM {α β : Type} {f : α → Option β} {xs : List α} {ys : List β}
    (h : xs.mapM f = some ys) {y : β} (hy : y ∈ ys) : ∃ x ∈ xs, f x = some y := by
  induction xs generalizing ys with
  | nil =>
    cases h
    cases hy
  | cons x xs ih =>
    simp only [List.mapM_cons, Option.bind_eq_bind, Option.bind_eq_some_iff, Option.pure_def,
      Option.some.injEq] at h
    obtain ⟨y', hy', ys', hys', rfl⟩ := h
    rcases List.mem_cons.mp hy with rfl | hy
    · exact ⟨x, .head xs, hy'⟩
    · obtain ⟨x', hx', hfx'⟩ := ih hys' hy
      exact ⟨x', .tail x hx', hfx'⟩

namespace Document

variable {α : Type}

theorem field_some {entries : List (String × Document)} {name : String} {absent x : α}
    {read : Document → Option α} (h : field entries name (some absent) read = some x) :
    x = absent ∨ ∃ d, read d = some x := by
  unfold field at h
  split at h
  · exact Or.inr ⟨_, h⟩
  · exact Or.inl (Option.some.inj h).symm

theorem named?_some {item? : Document → Option α} {d : Document} {m : Named α}
    (h : d.named? item? = some m) : m.Ascending ∧ ∀ e ∈ m, ∃ d', item? d' = some e.2 := by
  unfold named? at h
  split at h
  · obtain ⟨entries, hentries, rfl⟩ := Option.map_eq_some_iff.mp h
    refine ⟨Named.ofList_ascending entries, fun e he => ?_⟩
    obtain ⟨⟨name, d'⟩, -, hd'⟩ := mem_mapM hentries (Named.mem_ofList he)
    obtain ⟨x, hx, rfl⟩ := Option.map_eq_some_iff.mp hd'
    exact ⟨d', hx⟩
  · cases h

theorem oneOrMany?_some {item? : Document → Option α} {d : Document} {xs : List α}
    (h : d.oneOrMany? item? = some xs) : ∀ x ∈ xs, ∃ d', item? d' = some x := by
  intro x hx
  have hone {d' : Document} (h : (item? d').map ([·]) = some xs) : ∃ d', item? d' = some x := by
    obtain ⟨x', hx', rfl⟩ := Option.map_eq_some_iff.mp h
    obtain rfl := List.mem_singleton.mp hx
    exact ⟨d', hx'⟩
  unfold oneOrMany? at h
  split at h
  · split at h
    · rename_i hall
      obtain rfl := Option.some.inj h
      obtain ⟨d', -, hd'⟩ := mem_mapM hall hx
      exact ⟨d', hd'⟩
    · exact hone h
  · exact hone h

end Document

theorem Action.ofDocument?_assert {dialect : Dialect}
    {nested? : Document → Option (Named Assertion)} {d : Document} {inner : Named Assertion}
    (h : Action.ofDocument? dialect nested? d = some (.assert inner)) :
    inner = [] ∨ ∃ d', nested? d' = some inner := by
  simp only [Action.ofDocument?, Option.bind_eq_bind, Option.bind_eq_some_iff, Option.pure_def,
    Option.some.injEq] at h
  obtain ⟨entries, -, kind, -, source, -, destination, -, assertions, hassertions, hparts⟩ := h
  have hinner : assertions = inner := by
    unfold Action.ofParts at hparts
    split_ifs at hparts
    exact Action.assert.inj hparts
  subst hinner
  exact Document.field_some hassertions

theorem Assertion.ofDocument?_actions {dialect : Dialect}
    {actions? : Document → Option (List Action)} {d : Document} {a : Assertion}
    (h : Assertion.ofDocument? dialect actions? d = some a) :
    a.actions = [] ∨ ∃ d', actions? d' = some a.actions := by
  simp only [Assertion.ofDocument?, Option.bind_eq_bind, Option.bind_eq_some_iff, Option.pure_def,
    Option.some.injEq] at h
  obtain ⟨entries, -, kind, -, order, -, filePath, -, hash, -, basePath, -, regex, -, actions,
    hactions, rfl⟩ := h
  exact Document.field_some hactions

/-! ### Names -/

/-- In the set and in all sets within it, names ascend. -/
def Ordered (whole : Named Assertion) : Prop := ∀ part, Within whole part → part.Ascending

theorem Ordered.of_actions {whole : Named Assertion} (hwhole : whole.Ascending)
    (hactions : ∀ e ∈ whole, ∀ inner, .assert inner ∈ e.2.actions → Ordered inner) :
    Ordered whole := by
  intro part hpart
  rcases hpart.first with rfl | ⟨name, a, inner, hmem, haction, hpart⟩
  · exact hwhole
  · exact hactions (name, a) hmem inner haction part hpart

theorem Ordered.nil : Ordered [] := by
  refine .of_actions .nil fun e he => ?_
  cases he

theorem Ordered.of_named {dialect : Dialect} {actions? : Document → Option (List Action)}
    (hactions : ∀ d xs, actions? d = some xs → ∀ inner, .assert inner ∈ xs → Ordered inner)
    {d : Document} {m : Named Assertion}
    (h : d.named? (Assertion.ofDocument? dialect actions?) = some m) : Ordered m := by
  obtain ⟨hascending, hitems⟩ := Document.named?_some h
  refine .of_actions hascending fun e he inner hinner => ?_
  obtain ⟨d', hd'⟩ := hitems e he
  rcases Assertion.ofDocument?_actions hd' with hnil | ⟨d'', hd''⟩
  · rw [hnil] at hinner
    cases hinner
  · exact hactions d'' _ hd'' inner hinner

theorem Ordered.of_heldActions {n : Nat} {d : Document} {xs : List Action}
    (h : heldActions? n d = some xs) {inner : Named Assertion} (hinner : .assert inner ∈ xs) :
    Ordered inner := by
  induction n generalizing d xs inner with
  | zero =>
    rw [heldActions?] at h
    obtain ⟨d', hd'⟩ := Document.oneOrMany?_some h _ hinner
    rcases Action.ofDocument?_assert hd' with rfl | ⟨_, hnested⟩
    · exact .nil
    · cases hnested
  | succ n ih =>
    rw [heldActions?] at h
    obtain ⟨d', hd'⟩ := Document.oneOrMany?_some h _ hinner
    rcases Action.ofDocument?_assert hd' with rfl | ⟨_, hnested⟩
    · exact .nil
    · exact .of_named (fun _ _ hxs _ hmem => ih hxs hmem) hnested

theorem Ordered.of_group {dialect : Dialect} {d : Document} {g : Group}
    (h : Group.ofDocument? dialect d = some g) : Ordered g.assertions := by
  simp only [Group.ofDocument?, Option.bind_eq_bind, Option.bind_eq_some_iff, Option.pure_def,
    Option.some.injEq] at h
  obtain ⟨entries, -, name, -, assertions, hassertions, rfl⟩ := h
  rcases Document.field_some hassertions with rfl | ⟨d', hd'⟩
  · exact .nil
  · refine .of_named (fun d'' xs hxs inner hinner => ?_) hd'
    obtain ⟨held, -, hheld⟩ := Option.bind_eq_some_iff.mp hxs
    exact .of_heldActions hheld hinner

theorem Ordered.normalizeAll {whole : Named Assertion} (h : Ordered whole) :
    Ordered (normalizeAll whole) := by
  intro part hpart
  obtain ⟨part₀, hpart₀, rfl⟩ := hpart.of_normalizeAll
  rw [normalizeAll_eq_map]
  exact List.pairwise_map.mpr (h part₀ hpart₀)

theorem Ordered.within {whole part : Named Assertion} (h : Ordered whole)
    (hpart : Within whole part) : Ordered part :=
  fun _ hinner => h _ (hpart.trans hinner)

/-! ### Proper assertions -/

/-- An action that the evaluator can take or fail by, and that is not idle. -/
inductive Action.Proper : Action → Prop where
  | fail : Proper .fail
  | copyFile (source destination : String) : Proper (.copyFile source destination)
  | assert {inner : Named Assertion} : inner ≠ [] → Proper (.assert inner)

structure Assertion.Proper (a : Assertion) : Prop where
  known : ∀ kind, a.condition.kind ≠ .unknown kind
  acts : a.actions ≠ []
  actions : ∀ x ∈ a.actions, x.Proper

theorem Condition.known_of_validate {c : Condition} (h : c.validate = .ok ()) (kind : String) :
    c.kind ≠ .unknown kind := by
  intro hkind
  rw [validate, hkind] at h
  cases h

theorem Action.proper_of_validate {x : Action} (h : x.validate = .ok ()) (hset : x ≠ .unset) :
    x.Proper := by
  cases x with
  | unset => exact absurd rfl hset
  | fail => exact .fail
  | copyFile source destination => exact .copyFile source destination
  | assert inner => exact .assert (Action.validate_assert_ok_iff.mp h).1
  | unrecognised kind => cases h

theorem Assertion.proper_of_validate {a : Assertion} (h : a.normalize.validate = .ok ()) :
    a.normalize.Proper where
  known := Condition.known_of_validate (Assertion.validate_ok_iff.mp h).1
  acts := a.normalize_actions_ne_nil
  actions x hx := by
    refine Action.proper_of_validate ((Assertion.validate_ok_iff.mp h).2 x hx) ?_
    rintro rfl
    exact a.unset_not_mem_normalize hx

/-- In the set and in all sets within it, every assertion is proper. -/
def Thorough (whole : Named Assertion) : Prop :=
  ∀ part, Within whole part → ∀ e ∈ part, e.2.Proper

theorem Thorough.of_validateAll {whole : Named Assertion}
    (h : validateAll (normalizeAll whole) = .ok ()) : Thorough (normalizeAll whole) := by
  rintro part hpart ⟨name, a⟩ he
  have ha := (validateAll_ok_iff.mp (hpart.validateAll h) _ he).2
  obtain ⟨part₀, -, rfl⟩ := hpart.of_normalizeAll
  obtain ⟨a₀, -, rfl⟩ := mem_normalizeAll.mp he
  exact Assertion.proper_of_validate ha

theorem Thorough.within {whole part : Named Assertion} (h : Thorough whole)
    (hpart : Within whole part) : Thorough part :=
  fun _ hinner => h _ (hpart.trans hinner)

/-! ### Groups -/

/-- A group that some text or some file has given. -/
inductive Group.Accepted (g : Group) : Prop where
  | parsed {path : Option String} {format : Format} {s : String} :
      Group.parse path format s = .ok g → g.Accepted
  | loaded {d : Disk} {path : String} : Group.load d path = .ok g → g.Accepted

namespace Group

theorem prepare_ok_iff {path : Option String} {g g' : Group} :
    g.prepare path = .ok g' ↔ g.normalize.validate = .ok () ∧ g' = g.normalize := by
  unfold prepare
  cases hvalid : g.normalize.validate with
  | error flaw => simp
  | ok => simp [eq_comm]

theorem decode_ok {path : Option String} {format : Format} {s : String} {g : Group}
    (h : decode path format s = .ok g) : ∃ d, ofDocument? format.dialect d = some g := by
  unfold decode at h
  split at h
  · rename_i hread
    obtain rfl := Except.ok.inj h
    obtain ⟨d, -, hd⟩ := Option.bind_eq_some_iff.mp hread
    exact ⟨d, hd⟩
  · cases h

theorem parse_ok {path : Option String} {format : Format} {s : String} {g : Group}
    (h : parse path format s = .ok g) :
    ∃ d g₀, ofDocument? format.dialect d = some g₀ ∧ g₀.normalize.validate = .ok () ∧
      g = g₀.normalize := by
  unfold parse at h
  split at h
  · rename_i g₀ hdecode
    obtain ⟨d, hd⟩ := decode_ok hdecode
    exact ⟨d, g₀, hd, prepare_ok_iff.mp h⟩
  · cases h

namespace Accepted

variable {g : Group}

theorem read (h : g.Accepted) :
    ∃ dialect d g₀, ofDocument? dialect d = some g₀ ∧ g₀.normalize.validate = .ok () ∧
      g = g₀.normalize := by
  cases h with
  | parsed hparse => exact ⟨_, parse_ok hparse⟩
  | loaded hload =>
    unfold load at hload
    split at hload
    · exact ⟨_, parse_ok hload⟩
    · cases hload

theorem thorough (h : g.Accepted) : Thorough g.assertions := by
  obtain ⟨dialect, d, g₀, -, hvalid, rfl⟩ := h.read
  exact .of_validateAll hvalid

theorem ordered (h : g.Accepted) : Ordered g.assertions := by
  obtain ⟨dialect, d, g₀, hd, -, rfl⟩ := h.read
  exact (Ordered.of_group hd).normalizeAll

/-- Nothing is left to do to it. -/
theorem prepared (h : g.Accepted) (path : Option String) : g.prepare path = .ok g := by
  obtain ⟨dialect, d, g₀, -, hvalid, rfl⟩ := h.read
  rw [prepare_ok_iff, g₀.normalize_normalize]
  exact ⟨hvalid, rfl⟩

end Accepted

end Group

end Upkeep
