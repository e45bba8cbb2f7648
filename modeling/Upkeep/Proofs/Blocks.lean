import Upkeep.Proofs.HclItems
import Upkeep.Proofs.RoundTrip

/-!
Groups in blocks. A group that is laid out as HCL, with a labelled block for each assertion and a
block for each action, is read as the group that its JSON text is read as.
-/

set_option autoImplicit false

namespace Upkeep

open Hcl (Word Value Item Laid attributeItem attributeEntry document? oneOrList)

/-! ### Items -/

def textAttribute (name : Word) (value : String) : List (Word × Value) :=
  if value = "" then [] else [(name, .text value)]

def orderAttribute : Option Int64 → List (Word × Value)
  | some order => [(⟨"order", rfl⟩, .int order)]
  | none => []

def Condition.attributes (c : Condition) : List (Word × Value) :=
  textAttribute ⟨"file_path", rfl⟩ c.filePath ++ textAttribute ⟨"hash", rfl⟩ c.hash ++
    textAttribute ⟨"base_path", rfl⟩ c.basePath ++ textAttribute ⟨"regex", rfl⟩ c.regex

def assertionAttributes (c : Condition) (order : Option Int64) : List (Word × Value) :=
  (⟨"kind", rfl⟩, .text c.kind.toString) :: orderAttribute order ++ c.attributes

def Action.attributes : Action → List (Word × Value)
  | .unset => []
  | .fail => [(⟨"action", rfl⟩, .text "FAIL")]
  | .copyFile source destination =>
    (⟨"action", rfl⟩, .text "COPY") :: textAttribute ⟨"source_path", rfl⟩ source ++
      textAttribute ⟨"destination_path", rfl⟩ destination
  | .assert _ => [(⟨"action", rfl⟩, .text "ASSERT")]
  | .unrecognised kind => textAttribute ⟨"action", rfl⟩ kind

mutual

def Assertion.items : Assertion → List Item
  | ⟨condition, order, actions⟩ =>
    (assertionAttributes condition order).map attributeItem ++ actionItems actions

def Action.items : Action → List Item
  | .assert inner => (Action.assert inner).attributes.map attributeItem ++ assertionItems inner
  | x => x.attributes.map attributeItem

/-- A block for each action. -/
def actionItems : List Action → List Item
  | [] => []
  | x :: xs => .block ⟨"or", rfl⟩ [] x.items :: actionItems xs

/-- A block for each assertion, with its name for a label. -/
def assertionItems : List (String × Assertion) → List Item
  | [] => []
  | (name, a) :: as => .block ⟨"assert", rfl⟩ [name] a.items :: assertionItems as

end

def Group.items (g : Group) : List Item :=
  attributeItem (⟨"name", rfl⟩, .text g.name) :: assertionItems g.assertions

theorem actionItems_eq_map (xs : List Action) :
    actionItems xs = xs.map fun x => .block ⟨"or", rfl⟩ [] x.items := by
  induction xs with
  | nil => rfl
  | cons x xs ih => rw [actionItems, ih, List.map_cons]

theorem assertionItems_eq_map (assertions : Named Assertion) :
    assertionItems assertions =
      assertions.map fun e => .block ⟨"assert", rfl⟩ [e.1] e.2.items := by
  induction assertions with
  | nil => rfl
  | cons e assertions ih => rw [assertionItems, ih, List.map_cons]

/-! ### Shapes -/

/-- Several actions are a list, and one is not. -/
def Shape.folded (order : Int64 → Document)
    (order_read : ∀ i, Document.order? (order i) = some (some i)) : Shape where
  order := order
  many := oneOrList
  order_read := order_read
  many_read := by
    intro item? ds xs htables hitems
    unfold oneOrList
    split
    · rename_i d
      obtain ⟨es, rfl⟩ := htables d (.head _)
      simp only [List.mapM_cons, List.mapM_nil, Option.bind_eq_bind, Option.pure_def,
        Option.bind_some] at hitems
      rw [Document.oneOrMany?, ← hitems, Option.map_eq_bind]
      · rfl
      · simp
    · simp only [Document.oneOrMany?, hitems]
  depth_le := by
    intro d ds hd
    unfold oneOrList
    split
    · rw [List.mem_singleton.mp hd]
    · exact Nat.le_of_lt (Document.depth_lt_of_mem_list hd)

/-- As it is read from HCL. -/
def Shape.written : Shape := .folded (fun i => (Value.int i).toDocument) Document.order?_toInt

/-- As it is held. -/
def Shape.held : Shape := .folded (fun i => .int i.toInt) Document.order?_toInt

theorem settledEntries_append {es es' ds ds' : List (String × Document)}
    (h : Document.settled.settledEntries es = some ds)
    (h' : Document.settled.settledEntries es' = some ds') :
    Document.settled.settledEntries (es ++ es') = some (ds ++ ds') := by
  induction es generalizing ds with
  | nil =>
    cases h
    exact h'
  | cons e es ih =>
    obtain ⟨name, d⟩ := e
    rw [Document.settled.settledEntries] at h
    split at h
    · rename_i d₁ ds₁ hd hds
      cases h
      rw [List.cons_append, Document.settled.settledEntries, hd, ih hds]
      rfl
    · cases h

theorem settledItems_cons {d : Document} {ds ds' : List Document}
    (h : Document.settled.settledItems (d :: ds) = some ds') :
    ∃ d' rest, d.settled = some d' ∧ Document.settled.settledItems ds = some rest ∧
      ds' = d' :: rest := by
  rw [Document.settled.settledItems] at h
  split at h
  · rename_i d' rest hd hds
    exact ⟨d', rest, hd, hds, (Option.some.inj h).symm⟩
  · cases h

theorem oneOrList_settled {ds ds' : List Document}
    (h : Document.settled.settledItems ds = some ds') :
    (oneOrList ds).settled = some (oneOrList ds') := by
  have hlist : (Document.list ds).settled = some (.list ds') := by
    rw [Document.settled, h, Option.map_some]
  cases ds with
  | nil =>
    cases h
    exact hlist
  | cons d ds =>
    obtain ⟨d', rest, hd, hds, rfl⟩ := settledItems_cons h
    cases ds with
    | nil =>
      cases hds
      exact hd
    | cons d₂ ds =>
      obtain ⟨d₂', rest', -, -, rfl⟩ := settledItems_cons hds
      exact hlist

theorem orderEntry_settled (order : Option Int64) :
    Document.settled.settledEntries (Shape.written.orderEntry order) =
      some (Shape.held.orderEntry order) := by
  cases order with
  | none => rfl
  | some i =>
    have hmem : ("order", Document.int i.toInt) ∈ orderEntry (some i) := .head _
    have hplain := plain_of_mem_orderEntry hmem
    have hsettled : (Value.int i).toDocument.settled = some (.int i.toInt) := hplain.settled_eq
    simp only [Shape.orderEntry, Shape.written, Shape.held, Shape.folded,
      Document.settled.settledEntries, hsettled]

mutual

theorem Assertion.shown_settled :
    ∀ a : Assertion, (a.shown .written).settled = some (a.shown .held)
  | ⟨condition, order, actions⟩ => by
    have hactions := oneOrList_settled (actionsShown_settled actions)
    have hkind : Document.settled.settledEntries [("kind", .text condition.kind.toString)] =
        some [("kind", .text condition.kind.toString)] := rfl
    have hcondition := Document.settledEntries_eq fun e (he : e ∈ condition.toEntries) =>
      (Condition.plain_of_mem he).settled_eq
    have hor : Document.settled.settledEntries [("or", oneOrList (actionsShown .written actions))] =
        some [("or", oneOrList (actionsShown .held actions))] := by
      simp only [Document.settled.settledEntries, hactions]
    have hentries := settledEntries_append (settledEntries_append
      (settledEntries_append hkind (orderEntry_settled order)) hcondition) hor
    rw [Assertion.shown, Document.settled]
    exact congrArg (Option.map Document.table) hentries

theorem Action.shown_settled : ∀ x : Action, (x.shown .written).settled = some (x.shown .held)
  | .unset | .fail | .assert [] => rfl
  | .copyFile source destination => (Action.plain (.copyFile source destination)).settled_eq
  | .unrecognised kind => (Action.plain (.unrecognised kind)).settled_eq
  | .assert (a :: as) => by
    have hset := assertionsShown_settled (a :: as)
    have htable : (Document.table (assertionsShown .written (a :: as))).settled =
        some (.table (assertionsShown .held (a :: as))) := by
      rw [Document.settled, hset, Option.map_some]
    rw [Action.shown, Document.settled]
    simp only [Document.settled.settledEntries, htable]
    rfl

theorem actionsShown_settled : ∀ xs : List Action,
    Document.settled.settledItems (actionsShown .written xs) = some (actionsShown .held xs)
  | [] => rfl
  | x :: xs => by
    have hx := Action.shown_settled x
    have hxs := actionsShown_settled xs
    rw [actionsShown, Document.settled.settledItems, hx, hxs, actionsShown]

theorem assertionsShown_settled : ∀ as : List (String × Assertion),
    Document.settled.settledEntries (assertionsShown .written as) =
      some (assertionsShown .held as)
  | [] => rfl
  | (name, a) :: as => by
    have ha := Assertion.shown_settled a
    have has := assertionsShown_settled as
    rw [assertionsShown, Document.settled.settledEntries, ha, has, assertionsShown]

end

/-! ### The document of the items -/

theorem map_names (as : List (Word × Value)) :
    as.map (·.1.text) = (as.map attributeEntry).map (·.1) := by
  rw [List.map_map]
  rfl

theorem textAttribute_entries (name : Word) (value : String) :
    (textAttribute name value).map attributeEntry = Document.textEntry name.text value := by
  unfold textAttribute Document.textEntry
  split <;> rfl

theorem orderAttribute_entries (order : Option Int64) :
    (orderAttribute order).map attributeEntry = Shape.written.orderEntry order := by
  cases order <;> rfl

theorem assertionAttributes_entries (c : Condition) (order : Option Int64) :
    (assertionAttributes c order).map attributeEntry =
      ("kind", .text c.kind.toString) :: Shape.written.orderEntry order ++ c.toEntries := by
  simp only [assertionAttributes, Condition.attributes, List.map_append, List.map_cons,
    textAttribute_entries, orderAttribute_entries]
  rfl

theorem copyAttributes_entries (source destination : String) :
    (Action.copyFile source destination).attributes.map attributeEntry =
      copyEntries source destination := by
  simp only [Action.attributes, List.map_append, List.map_cons, textAttribute_entries]
  rfl

theorem assertionAttributes_names (c : Condition) (order : Option Int64) :
    ((assertionAttributes c order).map (·.1.text)).Sublist
      ["kind", "order", "file_path", "hash", "base_path", "regex"] := by
  have horder := Shape.written.orderEntry_names order
  rw [map_names, assertionAttributes_entries, List.map_append, List.map_cons]
  exact (horder.cons_cons "kind").append c.toEntries_names

theorem Action.document?_items {x : Action} (hx : x.Proper)
    (hnested : ∀ inner, x = .assert inner → Named.Ascending inner ∧
      ∀ e ∈ inner, document? e.2.items = some (e.2.shown .written)) :
    document? x.items = some (x.shown .written) := by
  cases hx with
  | fail => exact Hcl.document?_attributes Action.fail.attributes (by decide)
  | copyFile source destination =>
    have hnames : ((Action.copyFile source destination).attributes.map (·.1.text)).Nodup := by
      rw [map_names, copyAttributes_entries]
      exact .sublist (copyEntries_names source destination) (by decide)
    have hread := Hcl.document?_attributes _ hnames
    rw [copyAttributes_entries] at hread
    exact hread
  | @assert inner hinner =>
    obtain ⟨hascending, hread⟩ := hnested inner rfl
    have hname : (Action.assert inner).attributes.map (·.1.text) = ["action"] := rfl
    have hblocks := Hcl.document?_labelled (Action.assert inner).attributes
      (w := ⟨"assert", rfl⟩) (by rw [hname]; decide) (by rw [hname]; decide) hinner
      hascending.nodup hread
    obtain ⟨e, es, rfl⟩ := List.exists_cons_of_ne_nil hinner
    rw [Action.items, assertionItems_eq_map, hblocks, Action.shown, assertionsShown_eq_map]
    rfl

theorem Assertion.document?_items {a : Assertion} (hacts : a.actions ≠ [])
    (hread : ∀ x ∈ a.actions, document? x.items = some (x.shown .written)) :
    document? a.items = some (a.shown .written) := by
  obtain ⟨condition, order, actions⟩ := a
  have hsublist := assertionAttributes_names condition order
  have hnames : ((assertionAttributes condition order).map (·.1.text)).Nodup :=
    .sublist hsublist (by decide)
  have hor : "or" ∉ (assertionAttributes condition order).map (·.1.text) := fun hmem =>
    absurd (hsublist.subset hmem) (by decide)
  have hblocks := Hcl.document?_blocks _ (w := ⟨"or", rfl⟩) hnames hor hacts hread
  rw [assertionAttributes_entries] at hblocks
  rw [Assertion.items, actionItems_eq_map, hblocks, Assertion.shown, actionsShown_eq_map]
  rfl

theorem document?_items {whole : Named Assertion} (hordered : Ordered whole)
    (hthorough : Thorough whole) :
    ∀ e ∈ whole, document? e.2.items = some (e.2.shown .written) := by
  induction whole using sets_induction with
  | step whole ih =>
    intro e he
    have ha := hthorough whole .whole e he
    refine Assertion.document?_items ha.acts fun x hx => ?_
    refine Action.document?_items (ha.actions x hx) ?_
    rintro inner rfl
    have hwithin : Within whole inner := .action .whole he hx
    have hinner := hordered.within hwithin
    exact ⟨hinner inner .whole, ih e he inner hx hinner (hthorough.within hwithin)⟩

namespace Group

/-- The document of a group that is read from HCL; a group without assertions has no set of them. -/
theorem document?_items {g : Group} (hordered : Ordered g.assertions)
    (hthorough : Thorough g.assertions) :
    document? g.items = some (.table (("name", .text g.name) ::
      if g.assertions = [] then [] else
        [("assert", .table (assertionsShown .written g.assertions))])) := by
  have hread := Upkeep.document?_items hordered hthorough
  have hname : ([(⟨"name", rfl⟩, .text g.name)] : List (Word × Value)).map (·.1.text) = ["name"] :=
    rfl
  split
  · rename_i hnone
    rw [items, hnone]
    rfl
  · rename_i hsome
    have hblocks := Hcl.document?_labelled [(⟨"name", rfl⟩, .text g.name)]
      (w := ⟨"assert", rfl⟩) (by rw [hname]; decide) (by rw [hname]; decide) hsome
      (hordered _ .whole).nodup hread
    rw [items, assertionItems_eq_map, assertionsShown_eq_map]
    exact hblocks

theorem ofDocument?_written {g : Group} (hordered : Ordered g.assertions)
    (hthorough : Thorough g.assertions) :
    ofDocument? .hcl (.table (("name", .text g.name) ::
      if g.assertions = [] then [] else
        [("assert", .table (assertionsShown .written g.assertions))])) = some g := by
  have hset : (Document.table (assertionsShown .written g.assertions)).named?
      (Assertion.ofWhole? .hcl) = some g.assertions :=
    assertionsShown_read .written .held hordered hthorough fun e _ =>
      oneOrList_settled (actionsShown_settled e.2.actions)
  obtain ⟨name, assertions⟩ := g
  split
  · rename_i hnone
    obtain rfl : assertions = [] := hnone
    rfl
  · rw [ofDocument?, Document.entries?_table (by decide) (by simp)]
    simp [Document.field, List.lookup_cons, Document.text?, hset]

/-- A group that is laid out in blocks is read from HCL as it is read from JSON. Every group can be
laid out so, and the layout does not matter. -/
theorem laid_agrees {g : Group} (h : g.Accepted) (hnesting : g.nesting ≤ maxNesting)
    (path : Option String) :
    parse path .json (Json.compact g.toDocument) = .ok g ∧
      (∃ s : String, Laid g.items s.toList) ∧
      ∀ s : String, Laid g.items s.toList →
        parse path .hcl s = parse path .json (Json.compact g.toDocument) := by
  have hlimit : maxNesting = 16 := rfl
  have hprepared := h.prepared path
  have hjson := parse_compact h.ordered h.thorough (by omega) hprepared
  refine ⟨hjson, ⟨Hcl.write g.items, Hcl.laid_write g.items⟩, fun s hs => ?_⟩
  have hread : Format.hcl.read s = some _ :=
    Hcl.read_laid hs (document?_items h.ordered h.thorough)
  rw [hjson]
  exact parse_of_read hread (ofDocument?_written h.ordered h.thorough) hprepared

/-- An order below zero, a set within an assertion, and one action or two. -/
def frontend : Group :=
  ⟨"frontend", [("motd", ⟨{ kind := .fileExists, filePath := "/etc/motd" }, some (-7),
    [.assert [("hosts", ⟨{ kind := .fileAbsent, filePath := "/etc/hosts" }, some defaultOrder,
      [.fail]⟩)], .copyFile "motd" "/etc/motd"]⟩)]⟩

def frontendHcl : String :=
  "name = \"frontend\"\n\nassert \"motd\" \x7b\n  kind = \"exists\"\n  order = -7\n" ++
    "  file_path = \"/etc/motd\"\n\n  or \x7b\n    action = \"ASSERT\"\n\n" ++
    "    assert \"hosts\" \x7b\n      kind = \"!exists\"\n      order = 1000\n" ++
    "      file_path = \"/etc/hosts\"\n\n      or \x7b\n        action = \"FAIL\"\n" ++
    "      \x7d\n    \x7d\n  \x7d\n\n  or \x7b\n    action = \"COPY\"\n" ++
    "    source_path = \"motd\"\n    destination_path = \"/etc/motd\"\n  \x7d\n\x7d\n"

def frontendJson : String :=
  "\x7b\"name\":\"frontend\",\"assert\":\x7b\"motd\":\x7b\"kind\":\"exists\",\"order\":-7," ++
    "\"file_path\":\"/etc/motd\",\"or\":[\x7b\"action\":\"ASSERT\",\"assert\":" ++
    "\x7b\"hosts\":\x7b\"kind\":\"!exists\",\"order\":1000,\"file_path\":\"/etc/hosts\"," ++
    "\"or\":[\x7b\"action\":\"FAIL\"\x7d]\x7d\x7d\x7d,\x7b\"action\":\"COPY\"," ++
    "\"source_path\":\"motd\",\"destination_path\":\"/etc/motd\"\x7d]\x7d\x7d\x7d"

theorem frontend_accepted : frontend.Accepted := by
  refine .of_prepared ?_ (by decide) rfl rfl
  refine .of_actions (List.pairwise_singleton _ _) fun e he inner hinner => ?_
  obtain rfl := List.mem_singleton.mp he
  rcases List.mem_cons.mp hinner with hset | hcopy
  · obtain rfl := Action.assert.inj hset
    refine .of_actions (List.pairwise_singleton _ _) fun e he inner hinner => ?_
    obtain rfl := List.mem_singleton.mp he
    cases List.mem_singleton.mp hinner
  · cases List.mem_singleton.mp hcopy

theorem frontend_agrees : frontend.Accepted ∧ frontend.nesting ≤ maxNesting ∧
    Laid frontend.items frontendHcl.toList ∧
    Json.compact frontend.toDocument = frontendJson ∧
    parse none .json frontendJson = .ok frontend ∧
    parse none .hcl frontendHcl = parse none .json frontendJson := by
  have hnesting : frontend.nesting ≤ maxNesting := by decide
  have hwritten : Hcl.write frontend.items = frontendHcl := by decide +kernel
  have hjson : Json.compact frontend.toDocument = frontendJson := by decide +kernel
  have hlaid : Laid frontend.items frontendHcl.toList := hwritten ▸ Hcl.laid_write frontend.items
  obtain ⟨hparse, -, hagree⟩ := laid_agrees frontend_accepted hnesting none
  have hsame := hagree frontendHcl hlaid
  rw [hjson] at hparse hsame
  exact ⟨frontend_accepted, hnesting, hlaid, hjson, hparse, hsame⟩

end Group

end Upkeep
