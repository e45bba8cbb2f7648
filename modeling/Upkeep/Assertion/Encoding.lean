import Upkeep.Assertion.Basic
import Upkeep.Document.Record

/-!
Groups of assertions as documents. A group is written with its fields in a fixed order, without
those that are empty or unset; read back, an absent field is empty or unset.
-/

set_option autoImplicit false

namespace Upkeep

/-! ### Writing -/

def Condition.toEntries (c : Condition) : List (String × Document) :=
  Document.textEntry "file_path" c.filePath ++ Document.textEntry "hash" c.hash ++
    Document.textEntry "base_path" c.basePath ++ Document.textEntry "regex" c.regex

def orderEntry : Option Int64 → List (String × Document)
  | some order => [("order", .int order.toInt)]
  | none => []

mutual

def Assertion.toDocument : Assertion → Document
  | ⟨condition, order, actions⟩ =>
    .table (("kind", .text condition.kind.toString) :: orderEntry order ++ condition.toEntries ++
      [("or", .list (actionDocuments actions))])

def Action.toDocument : Action → Document
  | .unset => .table []
  | .fail => .table [("action", .text "FAIL")]
  | .copyFile source destination =>
    .table (("action", .text "COPY") :: Document.textEntry "source_path" source ++
      Document.textEntry "destination_path" destination)
  | .assert [] => .table [("action", .text "ASSERT")]
  | .assert (a :: as) =>
    .table [("action", .text "ASSERT"), ("assert", .table (assertionEntries (a :: as)))]
  | .unrecognised kind => .table (Document.textEntry "action" kind)

def actionDocuments : List Action → List Document
  | [] => []
  | a :: as => a.toDocument :: actionDocuments as

def assertionEntries : List (String × Assertion) → List (String × Document)
  | [] => []
  | (name, a) :: as => (name, a.toDocument) :: assertionEntries as

end

def Group.toDocument (g : Group) : Document :=
  .table [("name", .text g.name), ("assert", .table (assertionEntries g.assertions))]

/-! ### Reading -/

/-- An action by its word. Of the other parts it keeps those that belong to it. -/
def Action.ofParts (kind source destination : String) (assertions : Named Assertion) : Action :=
  if kind = "" then .unset
  else if kind = "FAIL" then .fail
  else if kind = "COPY" then .copyFile source destination
  else if kind = "ASSERT" then .assert assertions
  else .unrecognised kind

/-- An action whose nested assertions are read by `nested?`. -/
def Action.ofDocument? (dialect : Dialect) (nested? : Document → Option (Named Assertion))
    (d : Document) : Option Action := do
  let entries ← d.entries? dialect ["action", "source_path", "destination_path", "assert"]
  let kind ← Document.field entries "action" (some "") Document.text?
  let source ← Document.field entries "source_path" (some "") Document.text?
  let destination ← Document.field entries "destination_path" (some "") Document.text?
  let assertions ← Document.field entries "assert" (some []) nested?
  return .ofParts kind source destination assertions

/-- An assertion whose actions are read by `actions?`. -/
def Assertion.ofDocument? (dialect : Dialect) (actions? : Document → Option (List Action))
    (d : Document) : Option Assertion := do
  let entries ← d.entries? dialect ["kind", "order", "file_path", "hash", "base_path", "regex", "or"]
  let kind ← Document.field entries "kind" none Document.text?
  let order ← Document.field entries "order" (some none) Document.order?
  let filePath ← Document.field entries "file_path" (some "") Document.text?
  let hash ← Document.field entries "hash" (some "") Document.text?
  let basePath ← Document.field entries "base_path" (some "") Document.text?
  let regex ← Document.field entries "regex" (some "") Document.text?
  let actions ← Document.field entries "or" (some []) actions?
  return ⟨⟨.ofString kind, filePath, hash, basePath, regex⟩, order, actions⟩

/-- The actions in a held value, which reaches `n` sets of assertions deep. -/
def heldActions? (n : Nat) (d : Document) : Option (List Action) :=
  d.oneOrMany? (Action.ofDocument? .held fun d =>
    match n with
    | 0 => none
    | n + 1 => d.named? (Assertion.ofDocument? .held (heldActions? n)))

/-- The actions of an assertion that is not itself nested in another. -/
def actions? (dialect : Dialect) (d : Document) : Option (List Action) := do
  let d ← d.hold? dialect
  heldActions? d.depth d

def Assertion.ofWhole? (dialect : Dialect) (d : Document) : Option Assertion :=
  Assertion.ofDocument? dialect (actions? dialect) d

def Group.ofDocument? (dialect : Dialect) (d : Document) : Option Group := do
  let entries ← d.entries? dialect ["name", "assert"]
  let name ← Document.field entries "name" none Document.text?
  let assertions ← Document.field entries "assert" (some [])
    (Document.named? (Assertion.ofWhole? dialect))
  return ⟨name, assertions⟩

def Action.ofWhole? (dialect : Dialect) (d : Document) : Option Action :=
  Action.ofDocument? dialect (Document.named? (Assertion.ofWhole? dialect)) d

end Upkeep
