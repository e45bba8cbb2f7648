import Upkeep.Proofs.Shapes
import Upkeep.Run.Evaluate

/-!
Groups written and read back. A group that has been accepted once, from whatever format, is written
as a JSON text that is accepted again, as the same group.
-/

set_option autoImplicit false

namespace Upkeep

/-! ### The documents that are written -/

theorem Document.order?_toInt (order : Int64) :
    Document.order? (.int order.toInt) = some (some order) := by
  simp only [order?, value]
  rw [if_pos ⟨order.minValue_le_toInt, order.toInt_le⟩, Int64.ofInt_toInt]

/-- An order is a number, and actions are a list. -/
def Shape.plain : Shape where
  order i := .int i.toInt
  many := .list
  order_read := Document.order?_toInt
  many_read _ h := by simp only [Document.oneOrMany?, h]
  depth_le h := Nat.le_of_lt (Document.depth_lt_of_mem_list h)

theorem Shape.orderEntry_plain (order : Option Int64) :
    Shape.plain.orderEntry order = Upkeep.orderEntry order := by
  cases order <;> rfl

mutual

theorem Assertion.shown_plain : ∀ a : Assertion, a.shown .plain = a.toDocument
  | ⟨condition, order, actions⟩ => by
    have hactions := actionsShown_plain actions
    rw [Assertion.shown, Assertion.toDocument, Shape.orderEntry_plain, hactions]
    rfl

theorem Action.shown_plain : ∀ x : Action, x.shown .plain = x.toDocument
  | .unset | .fail | .copyFile _ _ | .assert [] | .unrecognised _ => rfl
  | .assert (a :: as) => by
    have hset := assertionsShown_plain (a :: as)
    rw [Action.shown, Action.toDocument, hset]

theorem actionsShown_plain : ∀ xs : List Action, actionsShown .plain xs = actionDocuments xs
  | [] => rfl
  | x :: xs => by
    have hx := Action.shown_plain x
    have hxs := actionsShown_plain xs
    rw [actionsShown, actionDocuments, hx, hxs]

theorem assertionsShown_plain :
    ∀ as : List (String × Assertion), assertionsShown .plain as = assertionEntries as
  | [] => rfl
  | (name, a) :: as => by
    have ha := Assertion.shown_plain a
    have has := assertionsShown_plain as
    rw [assertionsShown, assertionEntries, ha, has]

end

/-- How deep a value is that can be held when it is read from JSON. -/
theorem hold?_actionDocuments {xs : List Action} (hnesting : 4 * actionsNesting xs + 2 ≤ 124) :
    (Document.list (actionDocuments xs)).hold? .json = some (.list (actionDocuments xs)) := by
  have hdepth := actionDocuments_depth (actionsNesting xs) (Nat.le_refl (actionsNesting xs))
  have hsettled := (Document.Plain.list (actionDocuments_plain xs)).settled_eq
  simp only [Document.hold?, Dialect.json]
  rw [if_pos (by omega), hsettled]

theorem ok_of_toOption {ε α : Type} {result : Except ε α} {a : α} (h : result.toOption = some a) :
    result = .ok a := by
  cases result with
  | error e => cases h
  | ok b => rw [Option.some.inj h]

namespace Group

theorem ofDocument?_toDocument {g : Group} (hordered : Ordered g.assertions)
    (hthorough : Thorough g.assertions) (hnesting : 4 * g.nesting + 2 ≤ 124) :
    ofDocument? .json g.toDocument = some g := by
  have hset : (Document.table (assertionEntries g.assertions)).named?
      (Assertion.ofWhole? .json) = some g.assertions := by
    rw [← assertionsShown_plain]
    refine assertionsShown_read .plain .plain hordered hthorough fun e he => ?_
    have hle : e.2.nesting ≤ g.nesting := Assertion.nesting_le_of_mem he
    rw [e.2.nesting_eq] at hle
    rw [actionsShown_plain]
    exact hold?_actionDocuments (by omega)
  rw [toDocument, ofDocument?, Document.entries?_table (by decide) (by simp)]
  simp [Document.field, List.lookup_cons, Document.text?, hset]

theorem parse_of_read {g : Group} {path : Option String} {format : Format} {s : String}
    {d : Document} (hread : format.read s = some d)
    (hdocument : ofDocument? format.dialect d = some g) (hprepared : g.prepare path = .ok g) :
    parse path format s = .ok g := by
  have hdecode : decode path format s = .ok g := by
    rw [decode, hread, Option.bind_some, hdocument]
  rw [parse, hdecode]
  exact hprepared

/-- A group that there is nothing left to do to is read back, if it is not too deep to be held. -/
theorem parse_compact {g : Group} {path : Option String} (hordered : Ordered g.assertions)
    (hthorough : Thorough g.assertions) (hnesting : 4 * g.nesting + 2 ≤ 124)
    (hprepared : g.prepare path = .ok g) :
    parse path .json (Json.compact g.toDocument) = .ok g :=
  parse_of_read (Json.read_compact g.plain) (ofDocument?_toDocument hordered hthorough hnesting)
    hprepared

theorem Accepted.of_prepared {g : Group} (hordered : Ordered g.assertions)
    (hnesting : 4 * g.nesting + 2 ≤ 124) (hnormal : g.normalize = g)
    (hvalid : validateAll g.assertions = .ok ()) : g.Accepted := by
  have hassertions : Upkeep.normalizeAll g.assertions = g.assertions := congrArg assertions hnormal
  have hthorough : Thorough g.assertions := by
    rw [← hassertions] at hvalid ⊢
    exact .of_validateAll hvalid
  have hprepared : g.prepare none = .ok g := by
    rw [prepare_ok_iff, hnormal]
    exact ⟨hvalid, rfl⟩
  exact .parsed (parse_compact hordered hthorough hnesting hprepared)

/-- Whatever format an accepted group has come in, the JSON text that it is written as gives the
same group again. What can be held is deeper than what can be evaluated. -/
theorem accepted_reread {g : Group} (h : g.Accepted) (hnesting : g.nesting ≤ maxNesting)
    (path : Option String) : parse path .json (Json.compact g.toDocument) = .ok g := by
  have hlimit : maxNesting = 16 := rfl
  exact parse_compact h.ordered h.thorough (by omega) (h.prepared path)

/-- A group with a set in an assertion, an order below zero and text beyond ASCII. -/
def blocks : String :=
  "name = \"b\"\nassert m \x7b\nkind = \"exists\"\nfile_path = \"/é\"\norder = -7\n" ++
    "or \x7b\naction = \"ASSERT\"\nassert x \x7b\nkind = \"!exists\"\n" ++
    "file_path = \"\\t\"\n\x7d\n\x7d\n\x7d\n"

def blocksJson : String :=
  "\x7b\"name\":\"b\",\"assert\":\x7b\"m\":\x7b\"kind\":\"exists\",\"order\":-7," ++
    "\"file_path\":\"/é\",\"or\":[\x7b\"action\":\"ASSERT\",\"assert\":" ++
    "\x7b\"x\":\x7b\"kind\":\"!exists\",\"order\":1000,\"file_path\":\"\\t\"," ++
    "\"or\":[\x7b\"action\":\"FAIL\"\x7d]\x7d\x7d\x7d]\x7d\x7d\x7d"

theorem blocks_reread : ∃ g, parse none .hcl blocks = .ok g ∧ g.Accepted ∧
    g.nesting ≤ maxNesting ∧ Json.compact g.toDocument = blocksJson ∧
    parse none .json blocksJson = .ok g := by
  have hblocks : (parse none .hcl blocks).toOption.map
      (fun g => (g.nesting, Json.compact g.toDocument)) = some (1, blocksJson) := by
    decide +kernel
  obtain ⟨g, hg, hwritten⟩ := Option.map_eq_some_iff.mp hblocks
  obtain ⟨hone, hjson⟩ := Prod.mk.inj hwritten
  have hparse : parse none .hcl blocks = .ok g := ok_of_toOption hg
  have hnesting : g.nesting ≤ maxNesting := by
    rw [hone]
    decide
  have haccepted : g.Accepted := .parsed hparse
  refine ⟨g, hparse, haccepted, hnesting, hjson, ?_⟩
  rw [← hjson]
  exact accepted_reread haccepted hnesting none

end Group

end Upkeep
