import Mathlib.Data.List.Nodup
import Upkeep.Proofs.Accepted
import Upkeep.Proofs.Written

/-!
Shapes of the documents of groups. The formats differ in how an order is shown, and in how several
actions are; whatever the shape, an assertion is read back from its document, with the sets of
assertions within it.
-/

set_option autoImplicit false

namespace Upkeep

/-! ### Fields -/

namespace Document

/-- A table whose names are some of the fields, each once and in their order, can be read. -/
theorem entries?_table {dialect : Dialect} {fields : List String}
    {entries : List (String × Document)} (hfields : fields.Nodup)
    (hnames : (entries.map (·.1)).Sublist fields) :
    entries? dialect fields (.table entries) = some entries := by
  have honce : ∀ field : String, (entries.filter fun e => e.1 == field).length ≤ 1 := by
    intro field
    have hcount := List.nodup_iff_count_le_one.mp (hfields.sublist hnames) field
    rwa [List.count_eq_countP, List.countP_map, List.countP_eq_length_filter] at hcount
  simp [entries?, honce]

@[simp] theorem lookup_textEntry (name value field : String) :
    (textEntry name value).lookup field =
      if field = name ∧ value ≠ "" then some (.text value) else none := by
  unfold textEntry
  by_cases hvalue : value = ""
  · simp [hvalue]
  · by_cases hfield : field = name
    · simp [hvalue, hfield]
    · simp [hvalue, hfield, List.lookup_cons, beq_eq_false_iff_ne.mpr hfield]

theorem field_textEntry {entries : List (String × Document)} {name value : String}
    (h : entries.lookup name = if value ≠ "" then some (.text value) else none) :
    field entries name (some "") text? = some value := by
  rw [field, h]
  by_cases hvalue : value = ""
  · simp [hvalue]
  · simp [hvalue, text?]

theorem textEntry_names (name value : String) :
    ((textEntry name value).map (·.1)).Sublist [name] := by
  unfold textEntry
  split
  · exact List.nil_sublist [name]
  · exact List.Sublist.refl [name]

theorem named?_map {α β : Type} {item? : Document → Option β} {write : α → Document}
    (result : α → β) {m : Named α} (hascending : m.Ascending)
    (hitem : ∀ e ∈ m, item? (write e.2) = some (result e.2)) :
    (Document.table (m.map fun e => (e.1, write e.2))).named? item? =
      some (m.map fun e => (e.1, result e.2)) := by
  have hall : (m.map fun e => (e.1, write e.2)).mapM (fun e => (item? e.2).map (e.1, ·)) =
      some (m.map fun e => (e.1, result e.2)) := by
    refine mapM_map_eq_map fun e he => ?_
    rw [hitem e he]
    rfl
  have hresult : Named.Ascending (m.map fun e => (e.1, result e.2)) :=
    List.pairwise_map.mpr hascending
  simp only [named?, value, hall, Option.map_some, hresult.ofList_eq]

end Document

/-! ### Shapes -/

/-- How an order is shown, and several actions. -/
structure Shape where
  order : Int64 → Document
  many : List Document → Document
  order_read : ∀ i, Document.order? (order i) = some (some i)
  many_read : ∀ {item? : Document → Option Action} {ds : List Document} {xs : List Action},
    (∀ d ∈ ds, ∃ es, d = .table es) → ds.mapM item? = some xs →
      (many ds).oneOrMany? item? = some xs
  depth_le : ∀ {d : Document} {ds : List Document}, d ∈ ds → d.depth ≤ (many ds).depth

def Shape.orderEntry (s : Shape) : Option Int64 → List (String × Document)
  | some order => [("order", s.order order)]
  | none => []

def copyEntries (source destination : String) : List (String × Document) :=
  ("action", .text "COPY") :: Document.textEntry "source_path" source ++
    Document.textEntry "destination_path" destination

mutual

def Assertion.shown (s : Shape) : Assertion → Document
  | ⟨condition, order, actions⟩ =>
    .table (("kind", .text condition.kind.toString) :: s.orderEntry order ++ condition.toEntries ++
      [("or", s.many (actionsShown s actions))])

def Action.shown (s : Shape) : Action → Document
  | .unset => .table []
  | .fail => .table [("action", .text "FAIL")]
  | .copyFile source destination => .table (copyEntries source destination)
  | .assert [] => .table [("action", .text "ASSERT")]
  | .assert (a :: as) =>
    .table [("action", .text "ASSERT"), ("assert", .table (assertionsShown s (a :: as)))]
  | .unrecognised kind => .table (Document.textEntry "action" kind)

def actionsShown (s : Shape) : List Action → List Document
  | [] => []
  | x :: xs => x.shown s :: actionsShown s xs

def assertionsShown (s : Shape) : List (String × Assertion) → List (String × Document)
  | [] => []
  | (name, a) :: as => (name, a.shown s) :: assertionsShown s as

end

section

variable (s : Shape)

theorem actionsShown_eq_map (xs : List Action) : actionsShown s xs = xs.map (Action.shown s) := by
  induction xs with
  | nil => rfl
  | cons x xs ih => rw [actionsShown, ih, List.map_cons]

theorem assertionsShown_eq_map (assertions : Named Assertion) :
    assertionsShown s assertions = assertions.map fun e => (e.1, e.2.shown s) := by
  induction assertions with
  | nil => rfl
  | cons e assertions ih => rw [assertionsShown, ih, List.map_cons]

theorem Action.shown_table (x : Action) : ∃ es, x.shown s = .table es := by
  cases x with
  | assert inner => cases inner <;> exact ⟨_, by rw [shown]⟩
  | unset | fail | copyFile source destination | unrecognised kind => exact ⟨_, by rw [shown]⟩

def Assertion.entriesShown (a : Assertion) : List (String × Document) :=
  ("kind", .text a.condition.kind.toString) :: s.orderEntry a.order ++ a.condition.toEntries ++
    [("or", s.many (actionsShown s a.actions))]

theorem Assertion.shown_eq (a : Assertion) : a.shown s = .table (a.entriesShown s) := by
  obtain ⟨condition, order, actions⟩ := a
  rw [shown, entriesShown]

end


/-! ### Assertions -/

theorem AssertionKind.ofString_toString {k : AssertionKind} (h : ∀ kind, k ≠ .unknown kind) :
    ofString k.toString = k := by
  cases k with
  | unknown kind => exact absurd rfl (h kind)
  | _ => rfl

theorem Condition.toEntries_names (c : Condition) :
    (c.toEntries.map (·.1)).Sublist ["file_path", "hash", "base_path", "regex"] := by
  have hpath := Document.textEntry_names "file_path" c.filePath
  have hhash := Document.textEntry_names "hash" c.hash
  have hbase := Document.textEntry_names "base_path" c.basePath
  have hregex := Document.textEntry_names "regex" c.regex
  simp only [toEntries, List.map_append]
  exact ((hpath.append hhash).append hbase).append hregex

section

variable (s : Shape)

theorem Shape.orderEntry_names (order : Option Int64) :
    ((s.orderEntry order).map (·.1)).Sublist ["order"] := by
  cases order with
  | none => exact List.nil_sublist _
  | some order => exact List.Sublist.refl _

@[simp] theorem Shape.lookup_orderEntry (order : Option Int64) (field : String) :
    (s.orderEntry order).lookup field = if field = "order" then order.map s.order else none := by
  cases order with
  | none => simp [orderEntry]
  | some order =>
    by_cases hfield : field = "order"
    · simp [orderEntry, hfield]
    · simp [orderEntry, hfield, List.lookup_cons, beq_eq_false_iff_ne.mpr hfield]

theorem Assertion.entriesShown_names (a : Assertion) :
    ((a.entriesShown s).map (·.1)).Sublist
      ["kind", "order", "file_path", "hash", "base_path", "regex", "or"] := by
  have horder := s.orderEntry_names a.order
  have hcondition := a.condition.toEntries_names
  simp only [entriesShown, List.map_append, List.map_cons]
  exact ((horder.cons_cons "kind").append hcondition).append (List.Sublist.refl ["or"])

theorem Assertion.field_text {a : Assertion} {name value : String}
    (h : (name, value) ∈ [("file_path", a.condition.filePath), ("hash", a.condition.hash),
      ("base_path", a.condition.basePath), ("regex", a.condition.regex)]) :
    Document.field (a.entriesShown s) name (some "") Document.text? = some value := by
  refine Document.field_textEntry ?_
  simp only [List.mem_cons, Prod.mk.injEq, List.not_mem_nil, or_false] at h
  rcases h with ⟨rfl, rfl⟩ | ⟨rfl, rfl⟩ | ⟨rfl, rfl⟩ | ⟨rfl, rfl⟩
  all_goals simp [entriesShown, Condition.toEntries, List.lookup_append, List.lookup_cons]

theorem Assertion.field_order (a : Assertion) :
    Document.field (a.entriesShown s) "order" (some none) Document.order? = some a.order := by
  have hlookup : (a.entriesShown s).lookup "order" = a.order.map s.order := by
    simp [entriesShown, Condition.toEntries, List.lookup_append, List.lookup_cons]
  rw [Document.field, hlookup]
  cases a.order with
  | none => rfl
  | some order => exact s.order_read order

theorem Assertion.field_or {α : Type} (a : Assertion) (absent : Option α)
    (read : Document → Option α) :
    Document.field (a.entriesShown s) "or" absent read =
      read (s.many (actionsShown s a.actions)) := by
  have hlookup : (a.entriesShown s).lookup "or" = some (s.many (actionsShown s a.actions)) := by
    simp [entriesShown, Condition.toEntries, List.lookup_append, List.lookup_cons]
  rw [Document.field, hlookup]

theorem Assertion.ofDocument?_shown {dialect : Dialect}
    {actions? : Document → Option (List Action)} {a : Assertion}
    (hkind : ∀ kind, a.condition.kind ≠ .unknown kind)
    (hactions : actions? (s.many (actionsShown s a.actions)) = some a.actions) :
    Assertion.ofDocument? dialect actions? (a.shown s) = some a := by
  have hword : Document.field (a.entriesShown s) "kind" none Document.text? =
      some a.condition.kind.toString := rfl
  have hpath := a.field_text s (.head _)
  have hhash := a.field_text s (.tail _ (.head _))
  have hbase := a.field_text s (.tail _ (.tail _ (.head _)))
  have hregex := a.field_text s (.tail _ (.tail _ (.tail _ (.head _))))
  rw [shown_eq, Assertion.ofDocument?,
    Document.entries?_table (by decide) (a.entriesShown_names s)]
  simp only [Option.bind_eq_bind, Option.bind_some, Option.pure_def, hword, a.field_order, hpath,
    hhash, hbase, hregex, a.field_or s, hactions, AssertionKind.ofString_toString hkind]
  cases a
  rfl

end

/-! ### Actions -/

theorem copyEntries_names (source destination : String) :
    ((copyEntries source destination).map (·.1)).Sublist
      ["action", "source_path", "destination_path", "assert"] := by
  have hsource := Document.textEntry_names "source_path" source
  have hdestination := Document.textEntry_names "destination_path" destination
  have hpaths := hsource.append hdestination
  simp only [copyEntries, List.cons_append, List.map_cons, List.map_append]
  exact (hpaths.cons_cons "action").trans (List.sublist_append_left _ ["assert"])

theorem Action.ofDocument?_copyFile {dialect : Dialect}
    {nested? : Document → Option (Named Assertion)} (source destination : String) :
    Action.ofDocument? dialect nested? (.table (copyEntries source destination)) =
      some (.copyFile source destination) := by
  have hword : Document.field (copyEntries source destination) "action" (some "")
      Document.text? = some "COPY" := rfl
  have hsource : Document.field (copyEntries source destination) "source_path" (some "")
      Document.text? = some source := by
    refine Document.field_textEntry ?_
    simp [copyEntries, List.lookup_append, List.lookup_cons]
  have hdestination : Document.field (copyEntries source destination) "destination_path" (some "")
      Document.text? = some destination := by
    refine Document.field_textEntry ?_
    simp [copyEntries, List.lookup_append, List.lookup_cons]
  have hset : Document.field (copyEntries source destination) "assert" (some []) nested? =
      some [] := by
    simp [Document.field, copyEntries, List.lookup_append, List.lookup_cons]
  rw [Action.ofDocument?, Document.entries?_table (by decide) (copyEntries_names _ _)]
  simp only [Option.bind_eq_bind, Option.bind_some, Option.pure_def, hword, hsource, hdestination,
    hset]
  rfl

section

variable (s : Shape)

theorem Action.ofDocument?_shown {dialect : Dialect}
    {nested? : Document → Option (Named Assertion)} {x : Action} (hx : x.Proper)
    (hnested : ∀ inner, x = .assert inner →
      nested? (.table (assertionsShown s inner)) = some inner) :
    Action.ofDocument? dialect nested? (x.shown s) = some x := by
  cases hx with
  | fail => rfl
  | copyFile source destination => exact Action.ofDocument?_copyFile source destination
  | @assert inner hinner =>
    obtain ⟨e, es, rfl⟩ := List.exists_cons_of_ne_nil hinner
    have hset := hnested (e :: es) rfl
    rw [shown, Action.ofDocument?, Document.entries?_table (by decide) (by simp)]
    simp [Document.field, List.lookup_cons, Document.text?, hset, ofParts]

theorem Document.named?_assertionsShown {item? : Document → Option Assertion}
    {assertions : Named Assertion} (hascending : assertions.Ascending)
    (hitem : ∀ name a, (name, a) ∈ assertions → item? (a.shown s) = some a) :
    (Document.table (assertionsShown s assertions)).named? item? = some assertions := by
  rw [assertionsShown_eq_map, named?_map id hascending fun e he => hitem e.1 e.2 he]
  simp

/-! ### Sets of assertions -/

theorem actionsShown_depth_lt {xs : List Action} {inner : Named Assertion}
    (hinner : .assert inner ∈ xs) {name : String} {a : Assertion} (ha : (name, a) ∈ inner) :
    (s.many (actionsShown s a.actions)).depth < (s.many (actionsShown s xs)).depth := by
  have hactions : (s.many (actionsShown s a.actions)).depth < (a.shown s).depth := by
    rw [Assertion.shown_eq]
    exact Document.depth_lt_of_mem_table (List.mem_append_right _ (.head _))
  have hset : (a.shown s).depth < (Document.table (assertionsShown s inner)).depth := by
    rw [assertionsShown_eq_map]
    exact Document.depth_lt_of_mem_table (List.mem_map.mpr ⟨(name, a), ha, rfl⟩)
  have haction : (Document.table (assertionsShown s inner)).depth <
      ((Action.assert inner).shown s).depth := by
    cases inner with
    | nil => cases ha
    | cons e es => exact Document.depth_lt_of_mem_table (.tail _ (.head _))
  have hlist : ((Action.assert inner).shown s).depth ≤ (s.many (actionsShown s xs)).depth := by
    apply s.depth_le
    rw [actionsShown_eq_map]
    exact List.mem_map_of_mem hinner
  omega

/-- Held actions are read if they are not deeper than is looked. -/
theorem heldActions?_actionsShown (n : Nat) {xs : List Action} (hproper : ∀ x ∈ xs, x.Proper)
    (hsets : ∀ inner, .assert inner ∈ xs → Ordered inner ∧ Thorough inner)
    (hdepth : (s.many (actionsShown s xs)).depth ≤ n) :
    heldActions? n (s.many (actionsShown s xs)) = some xs := by
  -- The reader counts sets and the depth counts levels, so a set leaves more levels than it needs.
  induction n generalizing xs with
  | zero =>
    cases xs with
    | nil => exact s.many_read (by simp [actionsShown]) rfl
    | cons x xs =>
      obtain ⟨es, hes⟩ := x.shown_table s
      have hmem : x.shown s ∈ actionsShown s (x :: xs) := .head _
      have hle := s.depth_le hmem
      rw [hes, Document.depth] at hle
      omega
  | succ n ih =>
    have htables : ∀ d ∈ actionsShown s xs, ∃ es, d = .table es := by
      intro d hd
      rw [actionsShown_eq_map] at hd
      obtain ⟨x, -, rfl⟩ := List.mem_map.mp hd
      exact x.shown_table s
    rw [heldActions?]
    apply s.many_read htables
    rw [actionsShown_eq_map]
    refine mapM_map_eq_some fun x hx => ?_
    refine Action.ofDocument?_shown s (hproper x hx) ?_
    rintro inner rfl
    obtain ⟨hordered, hthorough⟩ := hsets inner hx
    refine Document.named?_assertionsShown s (hordered inner .whole) fun name a he => ?_
    have ha : a.Proper := hthorough inner .whole (name, a) he
    have hlt := actionsShown_depth_lt s hx he
    refine Assertion.ofDocument?_shown s ha.known (ih ha.actions ?_ (by omega))
    intro inner' hinner'
    have hwithin : Within inner inner' := .action .whole he hinner'
    exact ⟨hordered.within hwithin, hthorough.within hwithin⟩

end

theorem actions?_actionsShown {s s' : Shape} {dialect : Dialect} {xs : List Action}
    (hheld : (s.many (actionsShown s xs)).hold? dialect = some (s'.many (actionsShown s' xs)))
    (hproper : ∀ x ∈ xs, x.Proper)
    (hsets : ∀ inner, .assert inner ∈ xs → Ordered inner ∧ Thorough inner) :
    actions? dialect (s.many (actionsShown s xs)) = some xs := by
  rw [actions?, hheld]
  exact heldActions?_actionsShown s' _ hproper hsets (Nat.le_refl _)

/-- A set of assertions is read back if the actions in it can be held, in this shape or another. -/
theorem assertionsShown_read (s s' : Shape) {dialect : Dialect} {assertions : Named Assertion}
    (hordered : Ordered assertions) (hthorough : Thorough assertions)
    (hheld : ∀ e ∈ assertions, (s.many (actionsShown s e.2.actions)).hold? dialect =
      some (s'.many (actionsShown s' e.2.actions))) :
    (Document.table (assertionsShown s assertions)).named? (Assertion.ofWhole? dialect) =
      some assertions := by
  refine Document.named?_assertionsShown s (hordered _ .whole) fun name a he => ?_
  have ha : a.Proper := hthorough _ .whole (name, a) he
  refine Assertion.ofDocument?_shown s ha.known
    (actions?_actionsShown (hheld (name, a) he) ha.actions fun inner hinner => ?_)
  have hwithin : Within assertions inner := .action .whole he hinner
  exact ⟨hordered.within hwithin, hthorough.within hwithin⟩

end Upkeep
