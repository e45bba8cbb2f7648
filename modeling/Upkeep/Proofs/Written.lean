import Upkeep.Assertion.Encoding
import Upkeep.Proofs.JsonText

/-!
What the documents of groups are like. They hold nothing that JSON has no form for, they can be held
as they are, and they are four levels deep for each set of assertions that is within another.
-/

set_option autoImplicit false

namespace Upkeep

/-! ### Nesting -/

mutual

/-- How many sets of assertions are within one another, that of the assertion itself apart. -/
def Assertion.nesting : Assertion → Nat
  | ⟨_, _, actions⟩ => actionsNesting actions

def Action.nesting : Action → Nat
  | .assert assertions => assertionsNesting assertions + 1
  | _ => 0

def actionsNesting : List Action → Nat
  | [] => 0
  | x :: xs => max x.nesting (actionsNesting xs)

def assertionsNesting : List (String × Assertion) → Nat
  | [] => 0
  | (_, a) :: as => max a.nesting (assertionsNesting as)

end

def Group.nesting (g : Group) : Nat := assertionsNesting g.assertions

theorem Assertion.nesting_eq (a : Assertion) : a.nesting = actionsNesting a.actions := by
  obtain ⟨condition, order, actions⟩ := a
  rw [nesting]

/-! ### Entries -/

theorem assertionEntries_eq_map (assertions : Named Assertion) :
    assertionEntries assertions = assertions.map fun e => (e.1, e.2.toDocument) := by
  induction assertions with
  | nil => rfl
  | cons e assertions ih => rw [assertionEntries, ih, List.map_cons]

theorem actionDocuments_eq_map (xs : List Action) :
    actionDocuments xs = xs.map Action.toDocument := by
  induction xs with
  | nil => rfl
  | cons x xs ih => rw [actionDocuments, ih, List.map_cons]

def Assertion.toEntries (a : Assertion) : List (String × Document) :=
  ("kind", .text a.condition.kind.toString) :: orderEntry a.order ++ a.condition.toEntries ++
    [("or", .list (actionDocuments a.actions))]

theorem Assertion.toDocument_eq (a : Assertion) : a.toDocument = .table a.toEntries := by
  obtain ⟨condition, order, actions⟩ := a
  rw [toDocument, toEntries]

theorem mem_textEntry {name value : String} {e : String × Document}
    (h : e ∈ Document.textEntry name value) : e = (name, .text value) := by
  unfold Document.textEntry at h
  split at h
  · cases h
  · exact List.mem_singleton.mp h

/-! ### Plain documents -/

namespace Document

theorem settledItems_eq {ds : List Document} (h : ∀ d ∈ ds, d.settled = some d) :
    settled.settledItems ds = some ds := by
  induction ds with
  | nil => rfl
  | cons d ds ih =>
    rw [settled.settledItems, h d (.head ds), ih fun d' hd' => h d' (.tail d hd')]

theorem settledEntries_eq {es : List (String × Document)} (h : ∀ e ∈ es, e.2.settled = some e.2) :
    settled.settledEntries es = some es := by
  induction es with
  | nil => rfl
  | cons e es ih =>
    obtain ⟨name, d⟩ := e
    have hd : d.settled = some d := h (name, d) (.head es)
    rw [settled.settledEntries, hd, ih fun e' he' => h e' (.tail _ he')]

theorem Plain.settled_eq {d : Document} (hd : d.Plain) : d.settled = some d := by
  induction hd with
  | null | bool _ | text _ => rfl
  | int hmin hmax => rw [settled, if_pos ⟨hmin, hmax⟩]
  | list _ ih => rw [settled, settledItems_eq ih, Option.map_some]
  | table _ ih => rw [settled, settledEntries_eq ih, Option.map_some]

theorem Plain.textEntry {name value : String} {e : String × Document}
    (h : e ∈ Document.textEntry name value) : e.2.Plain := by
  rw [mem_textEntry h]
  exact .text value

end Document

theorem Condition.plain_of_mem {c : Condition} {e : String × Document} (h : e ∈ c.toEntries) :
    e.2.Plain := by
  simp only [toEntries, List.mem_append] at h
  rcases h with ((h | h) | h) | h
  all_goals exact .textEntry h

theorem plain_of_mem_orderEntry {order : Option Int64} {e : String × Document}
    (h : e ∈ orderEntry order) : e.2.Plain := by
  cases order with
  | none => cases h
  | some order =>
    obtain rfl := List.mem_singleton.mp h
    have hle := order.toInt_lt
    have hsize : UInt64.size = 2 ^ 64 := rfl
    exact .int order.minValue_le_toInt (by omega)

mutual

theorem Assertion.plain : ∀ a : Assertion, a.toDocument.Plain
  | ⟨condition, order, actions⟩ => by
    have hactions := actionDocuments_plain actions
    rw [Assertion.toDocument_eq]
    refine .table fun e he => ?_
    simp only [Assertion.toEntries, List.mem_append, List.mem_cons, List.not_mem_nil,
      or_false] at he
    rcases he with ((rfl | he) | he) | rfl
    · exact .text _
    · exact plain_of_mem_orderEntry he
    · exact Condition.plain_of_mem he
    · exact .list hactions

theorem Action.plain : ∀ x : Action, x.toDocument.Plain
  | .unset => .table fun e he => by cases he
  | .fail => .table fun e he => by
    obtain rfl := List.mem_singleton.mp he
    exact .text _
  | .copyFile source destination => .table fun e he => by
    simp only [List.cons_append, List.mem_cons, List.mem_append] at he
    rcases he with rfl | he | he
    · exact .text _
    · exact .textEntry he
    · exact .textEntry he
  | .assert [] => .table fun e he => by
    obtain rfl := List.mem_singleton.mp he
    exact .text _
  | .assert (a :: as) => by
    have hset := assertionEntries_plain (a :: as)
    rw [Action.toDocument]
    refine .table fun e he => ?_
    simp only [List.mem_cons, List.not_mem_nil, or_false] at he
    rcases he with rfl | rfl
    · exact .text _
    · exact .table hset
  | .unrecognised kind => .table fun e he => .textEntry he

theorem actionDocuments_plain : ∀ xs : List Action, ∀ d ∈ actionDocuments xs, d.Plain
  | [], d, hd => by cases hd
  | x :: xs, d, hd => by
    have hx := Action.plain x
    have hxs := actionDocuments_plain xs
    rw [actionDocuments] at hd
    rcases List.mem_cons.mp hd with rfl | hd
    · exact hx
    · exact hxs d hd

theorem assertionEntries_plain :
    ∀ assertions : List (String × Assertion), ∀ e ∈ assertionEntries assertions, e.2.Plain
  | [], e, he => by cases he
  | (name, a) :: as, e, he => by
    have ha := Assertion.plain a
    have has := assertionEntries_plain as
    rw [assertionEntries] at he
    rcases List.mem_cons.mp he with rfl | he
    · exact ha
    · exact has e he

end

theorem Group.plain (g : Group) : g.toDocument.Plain := by
  refine .table fun e he => ?_
  simp only [List.mem_cons, List.not_mem_nil, or_false] at he
  rcases he with rfl | rfl
  · exact .text g.name
  · exact .table (assertionEntries_plain g.assertions)

/-! ### Depths -/

namespace Document

theorem depthItems_le {ds : List Document} {n : Nat} (h : ∀ d ∈ ds, d.depth ≤ n) :
    depth.depthItems ds ≤ n := by
  induction ds with
  | nil => exact Nat.zero_le n
  | cons d ds ih =>
    rw [depth.depthItems]
    exact Nat.max_le.mpr ⟨h d (.head ds), ih fun d' hd' => h d' (.tail d hd')⟩

theorem depthEntries_le {es : List (String × Document)} {n : Nat} (h : ∀ e ∈ es, e.2.depth ≤ n) :
    depth.depthEntries es ≤ n := by
  induction es with
  | nil => exact Nat.zero_le n
  | cons e es ih =>
    obtain ⟨name, d⟩ := e
    rw [depth.depthEntries]
    exact Nat.max_le.mpr ⟨h (name, d) (.head es), ih fun e' he' => h e' (.tail _ he')⟩

theorem depth_list_le {ds : List Document} {n : Nat} (h : ∀ d ∈ ds, d.depth ≤ n) :
    (Document.list ds).depth ≤ n + 1 := by
  have hitems := depthItems_le h
  rw [depth]
  omega

theorem depth_table_le {es : List (String × Document)} {n : Nat} (h : ∀ e ∈ es, e.2.depth ≤ n) :
    (Document.table es).depth ≤ n + 1 := by
  have hentries := depthEntries_le h
  rw [depth]
  omega

theorem depth_lt_of_mem_list {d : Document} {ds : List Document} (h : d ∈ ds) :
    d.depth < (Document.list ds).depth := by
  rw [depth]
  induction ds with
  | nil => cases h
  | cons d' ds ih =>
    rw [depth.depthItems]
    rcases List.mem_cons.mp h with rfl | h
    · omega
    · have hlt := ih h
      omega

theorem depth_lt_of_mem_table {name : String} {d : Document} {es : List (String × Document)}
    (h : (name, d) ∈ es) : d.depth < (Document.table es).depth := by
  rw [depth]
  induction es with
  | nil => cases h
  | cons e es ih =>
    obtain ⟨name', d'⟩ := e
    rw [depth.depthEntries]
    rcases List.mem_cons.mp h with heq | h
    · obtain ⟨-, rfl⟩ := Prod.mk.inj heq
      omega
    · have hlt := ih h
      omega

end Document

theorem Action.nesting_le_of_mem {x : Action} {xs : List Action} (h : x ∈ xs) :
    x.nesting ≤ actionsNesting xs := by
  induction xs with
  | nil => cases h
  | cons x' xs ih =>
    rw [actionsNesting]
    rcases List.mem_cons.mp h with rfl | h
    · exact Nat.le_max_left _ _
    · exact Nat.le_trans (ih h) (Nat.le_max_right _ _)

theorem Assertion.nesting_le_of_mem {e : String × Assertion} {assertions : Named Assertion}
    (h : e ∈ assertions) : e.2.nesting ≤ assertionsNesting assertions := by
  induction assertions with
  | nil => cases h
  | cons e' assertions ih =>
    obtain ⟨name, a⟩ := e'
    rw [assertionsNesting]
    rcases List.mem_cons.mp h with rfl | h
    · exact Nat.le_max_left _ _
    · exact Nat.le_trans (ih h) (Nat.le_max_right _ _)

theorem sets_induction {motive : Named Assertion → Prop}
    (step : ∀ whole : Named Assertion,
      (∀ e ∈ whole, ∀ inner, .assert inner ∈ e.2.actions → motive inner) → motive whole)
    (whole : Named Assertion) : motive whole := by
  induction hn : assertionsNesting whole using Nat.strongRecOn generalizing whole with
  | ind n ih =>
    apply step
    intro e he inner hinner
    have houter := Assertion.nesting_le_of_mem he
    have haction := Action.nesting_le_of_mem hinner
    rw [Action.nesting, ← Assertion.nesting_eq] at haction
    exact ih _ (by omega) inner rfl

theorem Condition.depth_of_mem {c : Condition} {e : String × Document} (h : e ∈ c.toEntries) :
    e.2.depth = 0 := by
  simp only [toEntries, List.mem_append] at h
  rcases h with ((h | h) | h) | h
  all_goals
    rw [mem_textEntry h]
    rfl

theorem depth_of_mem_orderEntry {order : Option Int64} {e : String × Document}
    (h : e ∈ orderEntry order) : e.2.depth = 0 := by
  cases order with
  | none => cases h
  | some order =>
    obtain rfl := List.mem_singleton.mp h
    rfl

theorem Assertion.depth_le {a : Assertion} {n : Nat}
    (h : (Document.list (actionDocuments a.actions)).depth ≤ n) : a.toDocument.depth ≤ n + 1 := by
  rw [toDocument_eq]
  refine Document.depth_table_le fun e he => ?_
  simp only [toEntries, List.mem_append, List.mem_cons, List.not_mem_nil, or_false] at he
  rcases he with ((rfl | he) | he) | rfl
  · exact Nat.zero_le n
  · rw [depth_of_mem_orderEntry he]
    exact Nat.zero_le n
  · rw [Condition.depth_of_mem he]
    exact Nat.zero_le n
  · exact h

theorem Action.depth_le {x : Action} {n : Nat}
    (h : ∀ inner, x = .assert inner → (Document.table (assertionEntries inner)).depth ≤ n) :
    x.toDocument.depth ≤ n + 1 := by
  cases x with
  | unset => exact Nat.succ_le_succ (Nat.zero_le n)
  | fail => exact Nat.succ_le_succ (Nat.zero_le n)
  | copyFile source destination =>
    rw [toDocument]
    refine Document.depth_table_le fun e he => ?_
    simp only [List.cons_append, List.mem_cons, List.mem_append] at he
    rcases he with rfl | he | he
    · exact Nat.zero_le n
    all_goals
      rw [mem_textEntry he]
      exact Nat.zero_le n
  | assert inner =>
    cases inner with
    | nil => exact Nat.succ_le_succ (Nat.zero_le n)
    | cons a as =>
      rw [toDocument]
      refine Document.depth_table_le fun e he => ?_
      simp only [List.mem_cons, List.not_mem_nil, or_false] at he
      rcases he with rfl | rfl
      · exact Nat.zero_le n
      · exact h (a :: as) rfl
  | unrecognised kind =>
    rw [toDocument]
    refine Document.depth_table_le fun e he => ?_
    rw [mem_textEntry he]
    exact Nat.zero_le n

/-- Each set of assertions adds four levels: a list of actions, an action, the set, an assertion. -/
theorem actionDocuments_depth (n : Nat) {xs : List Action} (h : actionsNesting xs ≤ n) :
    (Document.list (actionDocuments xs)).depth ≤ 4 * n + 2 := by
  refine Document.depth_list_le fun d hd => ?_
  rw [actionDocuments_eq_map] at hd
  obtain ⟨x, hx, rfl⟩ := List.mem_map.mp hd
  refine Action.depth_le fun inner hinner => ?_
  have hle := Nat.le_trans (Action.nesting_le_of_mem hx) h
  rw [hinner, Action.nesting] at hle
  cases n with
  | zero => omega
  | succ n =>
    refine Document.depth_table_le fun e he => ?_
    rw [assertionEntries_eq_map] at he
    obtain ⟨⟨name, a⟩, ha, rfl⟩ := List.mem_map.mp he
    have hnesting := Nat.le_trans (Assertion.nesting_le_of_mem ha) (Nat.le_of_succ_le_succ hle)
    rw [Assertion.nesting_eq] at hnesting
    exact Assertion.depth_le (actionDocuments_depth n hnesting)

end Upkeep
