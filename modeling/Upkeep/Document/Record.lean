import Upkeep.Document.Basic
import Upkeep.Named

/-!
Reading records out of documents. A record is written as a table, in which unknown names are
passed over and each field stands at most once, or as a list of its fields in order. Where the file
formats disagree on details, a dialect says what holds.

A value that may be one item or a list of items is held as a whole before it is known which: what
cannot be held fails, and what is held follows a dialect of its own.
-/

set_option autoImplicit false

namespace Upkeep

/-- What differs between file formats when records are read. -/
structure Dialect where
  /-- A list may go on after the last field. -/
  surplusItems : Bool
  /-- What may stand beside a word that is written as a table of one entry. -/
  isEmptyPayload : Document → Bool
  /-- How deep a value may be that is held. -/
  heldDepth : Option Nat

namespace Dialect

def isNull : Document → Bool
  | .null => true
  | .expression _ d => isNull d
  | _ => false

def isEmptyContainer : Document → Bool
  | .list [] => true
  | .table [] => true
  | _ => false

/-- A held value lies three levels deep, and 127 levels can be read. -/
def json : Dialect := ⟨false, isNull, some 124⟩

def toml : Dialect := ⟨true, isEmptyContainer, none⟩

def hcl : Dialect := ⟨true, isNull, none⟩

def held : Dialect := ⟨false, isNull, none⟩

end Dialect

namespace Document

def entries? (dialect : Dialect) (fields : List String) : Document → Option (List (String × Document))
  | .table entries =>
    if fields.all fun field => (entries.filter fun e => e.1 == field).length ≤ 1 then some entries
    else none
  | .list items =>
    if dialect.surplusItems || items.length ≤ fields.length then some (fields.zip items) else none
  | .expression _ d => entries? dialect fields d
  | _ => none

def text? : Document → Option String
  | .text s => some s
  | .expression written _ => some written
  | _ => none

/-- A signed integer of 64 bits, or null for none. -/
def order? (d : Document) : Option (Option Int64) :=
  match d.value with
  | .null => some none
  | .int i => if Int64.minValue.toInt ≤ i ∧ i ≤ Int64.maxValue.toInt then some (some (Int64.ofInt i)) else none
  | _ => none

/-- A natural number of 64 bits, or null for none. -/
def count? (d : Document) : Option (Option UInt64) :=
  match d.value with
  | .null => some none
  | .int i => if 0 ≤ i ∧ i < UInt64.size then some (some (UInt64.ofNat i.toNat)) else none
  | _ => none

/-- A word of a fixed vocabulary, alone or with an empty payload. -/
def word? {α : Type} (dialect : Dialect) (read : String → Option α) (d : Document) : Option α :=
  match d.value with
  | .text s => read s
  | .table [(s, payload)] => if dialect.isEmptyPayload payload then read s else none
  | _ => none

/-- A word of a fixed vocabulary, or null for none. -/
def wordOrNull? {α : Type} (dialect : Dialect) (read : String → Option α) (d : Document) :
    Option (Option α) :=
  match d.value with
  | .null => some none
  | _ => (d.word? dialect read).map some

/-- A table of items under names of their own. Each item is read, also one that a later item of
the same name replaces. -/
def named? {α : Type} (item? : Document → Option α) (d : Document) : Option (Named α) :=
  match d.value with
  | .table entries => (entries.mapM fun e => (item? e.2).map (e.1, ·)).map Named.ofList
  | _ => none

/-- A list of items, or one item in place of a list of it alone. A list that cannot be read item by
item may still be one item, written as a list of its fields. -/
def oneOrMany? {α : Type} (item? : Document → Option α) : Document → Option (List α)
  | .list items =>
    match items.mapM item? with
    | some xs => some xs
    | none => (item? (.list items)).map ([·])
  | d => (item? d).map ([·])

def hold? (dialect : Dialect) (d : Document) : Option Document :=
  match dialect.heldDepth with
  | some limit => if d.depth ≤ limit then d.settled else none
  | none => d.settled

/-- The field of this name, or a default where it is absent. -/
def field {α : Type} (entries : List (String × Document)) (name : String) (absent : Option α)
    (read : Document → Option α) : Option α :=
  match entries.lookup name with
  | some d => read d
  | none => absent

/-- The entry of a text, left out when it is empty. -/
def textEntry (name value : String) : List (String × Document) :=
  if value = "" then [] else [(name, .text value)]

end Document

end Upkeep
