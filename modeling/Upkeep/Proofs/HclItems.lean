import Upkeep.Proofs.HclText

/-!
Bodies of HCL read back. Attributes and blocks that are laid out on lines of their own, with as many
blanks and empty lines as one likes, are read as the document that they make up.
-/

set_option autoImplicit false

namespace Upkeep.Hcl

/-! ### Items -/

/-- A name that needs no quotation marks. -/
structure Word where
  text : String
  isName : readName text.toList = some (text.toList, [])

inductive Item where
  | attribute (name : Word) (value : Value)
  | block (name : Word) (labels : List String) (items : List Item)

mutual

def Item.addTo : Item → Body → Option Body
  | .attribute name value, b => b.addAttribute name.text value.toDocument
  | .block name labels items, b =>
    (addItems items {}).map fun inner => b.addBlock name.text labels inner.toDocument

def addItems : List Item → Body → Option Body
  | [], b => some b
  | item :: items, b => (item.addTo b).bind (addItems items)

end

/-- The document that items make up, unless an attribute comes twice. -/
def document? (items : List Item) : Option Document := (addItems items {}).map Body.toDocument

/-! ### Layout -/

/-- A text after empty lines and blanks. -/
def indent (gap margin : Nat) (cs : List Char) : List Char :=
  List.replicate gap '\n' ++ (blanks margin ++ cs)

def labelChars : List String → List Char
  | [] => []
  | label :: labels => ' ' :: (quote label.toList ++ labelChars labels)

/-- A text in which these items stand one after another, each on lines of its own. -/
inductive Laid : List Item → List Char → Prop where
  | nil : Laid [] []
  | line (gap margin padding : Nat) (name : Word) (value : Value) {items : List Item}
      {cs : List Char} : Laid items cs →
      Laid (.attribute name value :: items)
        (indent gap margin (name.text.toList ++
          (blanks (padding + 1) ++ '=' :: ' ' :: (value.chars ++ '\n' :: cs))))
  | block (gap margin gap' margin' : Nat) (name : Word) (labels : List String)
      {inner items : List Item} {body cs : List Char} : Laid inner body → Laid items cs →
      Laid (.block name labels inner :: items)
        (indent gap margin (name.text.toList ++ (labelChars labels ++
          ' ' :: '\x7b' :: '\n' :: (body ++ indent gap' margin' ('\x7d' :: '\n' :: cs)))))

mutual

def Item.chars (depth : Nat) : Item → List Char
  | .attribute name value =>
    indent 0 (2 * depth) (name.text.toList ++ (blanks 1 ++ '=' :: ' ' :: (value.chars ++ ['\n'])))
  | .block name labels items =>
    indent 1 (2 * depth) (name.text.toList ++ (labelChars labels ++
      ' ' :: '\x7b' :: '\n' :: (itemChars (depth + 1) items ++
        indent 0 (2 * depth) ['\x7d', '\n'])))

def itemChars (depth : Nat) : List Item → List Char
  | [] => []
  | item :: items => item.chars depth ++ itemChars depth items

end

/-- One layout among them: two blanks for each block around, and an empty line before a block. -/
def write (items : List Item) : String := String.ofList (itemChars 0 items)

mutual

theorem Item.laid_chars (depth : Nat) :
    ∀ (item : Item) {items : List Item} {cs : List Char}, Laid items cs →
      Laid (item :: items) (item.chars depth ++ cs)
  | .attribute name value, items, cs, h => by
    have hline := Laid.line 0 (2 * depth) 0 name value h
    simpa [Item.chars, indent] using hline
  | .block name labels inner, items, cs, h => by
    have hbody := laid_itemChars (depth + 1) inner
    have hblock := Laid.block 1 (2 * depth) 0 (2 * depth) name labels hbody h
    simpa [Item.chars, indent] using hblock

theorem laid_itemChars (depth : Nat) :
    ∀ items : List Item, Laid items (itemChars depth items)
  | [] => .nil
  | item :: items => item.laid_chars depth (laid_itemChars depth items)

end

theorem laid_write (items : List Item) : Laid items (write items).toList := by
  rw [write, String.toList_ofList]
  exact laid_itemChars 0 items

/-! ### Names and labels -/

theorem solid_of_starts {c : Char} (h : (Text.isIdentifierStart c || c = '_') = true) :
    Solid c ∧ c ≠ '\x7d' := by
  have hne : ∀ e : Char, (Text.isIdentifierStart e || e = '_') = false → c ≠ e := by
    rintro e he rfl
    rw [h] at he
    cases he
  have hspace : isSpace c = false := by
    simp [isSpace, hne ' ' rfl, hne '\t' rfl]
  exact ⟨⟨hspace, hne _ rfl, hne _ rfl, hne _ rfl, hne _ rfl⟩, hne _ rfl⟩

namespace Word

theorem shape (w : Word) : ∃ c cs, w.text.toList = c :: cs ∧
    (Text.isIdentifierStart c || c = '_') = true ∧ ∀ d ∈ cs, isNameChar d = true := by
  have hname := w.isName
  cases hw : w.text.toList with
  | nil =>
    rw [hw] at hname
    cases hname
  | cons c cs =>
    rw [hw, readName] at hname
    split at hname
    · rename_i hstart
      rw [List.span_eq_takeWhile_dropWhile] at hname
      have hrest : cs.takeWhile isNameChar = cs := by simpa using congrArg (Option.map (·.1)) hname
      exact ⟨c, cs, rfl, hstart, List.takeWhile_eq_self_iff.mp hrest⟩
    · cases hname

/-- A word is read off the front of what goes on with a blank. -/
theorem readName_blank (w : Word) (rest : List Char) :
    readName (w.text.toList ++ ' ' :: rest) = some (w.text.toList, ' ' :: rest) := by
  obtain ⟨c, cs, hw, hstart, hrest⟩ := w.shape
  have hblank : isNameChar ' ' = false := rfl
  rw [hw, List.cons_append, readName, if_pos hstart, List.span_eq_takeWhile_dropWhile,
    List.takeWhile_append_of_pos hrest, List.dropWhile_append_of_pos hrest]
  simp [hblank]

end Word

theorem length_labels (labels : List String) (rest : List Char) :
    labels.length < (labelChars labels ++ ' ' :: rest).length := by
  induction labels with
  | nil => simp [labelChars]
  | cons label labels ih =>
    simp only [labelChars, List.cons_append, List.append_assoc, List.length_cons,
      List.length_append] at ih ⊢
    omega

theorem solid_quote : Solid '\x22' := by constructor <;> decide

theorem solid_brace : Solid '\x7b' := by constructor <;> decide

theorem skip_quote (cs : List Char) : skip false (' ' :: '\x22' :: cs) = '\x22' :: cs :=
  skip_blanks solid_quote 1 cs

theorem skip_brace (cs : List Char) : skip false (' ' :: '\x7b' :: cs) = '\x7b' :: cs :=
  skip_blanks solid_brace 1 cs

theorem scanLabel_quote (label : String) (rest : List Char) :
    scanLabel (escape label.toList ++ '\x22' :: rest).length
      (escape label.toList ++ '\x22' :: rest) = some (escape label.toList, rest) := by
  apply (escaped label.toList).scanLabel
  simp only [List.length_append, List.length_cons]
  omega

theorem readLabels_labelChars (labels : List String) {n : Nat} (hn : labels.length < n)
    (rest : List Char) :
    readLabels n (labelChars labels ++ ' ' :: '\x7b' :: rest) = some (labels, rest) := by
  induction labels generalizing n with
  | nil =>
    obtain ⟨n, rfl⟩ : ∃ m, n = m + 1 := ⟨n - 1, by simp at hn; omega⟩
    rw [labelChars, List.nil_append, readLabels, skip_brace]
    rfl
  | cons label labels ih =>
    simp only [List.length_cons] at hn
    obtain ⟨n, rfl⟩ : ∃ m, n = m + 1 := ⟨n - 1, by omega⟩
    have htext := (escaped label.toList).unescape (Nat.le_refl _)
    simp only [labelChars, quote, List.cons_append, List.append_assoc, List.nil_append]
    rw [readLabels, skip_quote]
    split
    · rename_i heq
      cases heq
    · rename_i heq
      obtain ⟨-, rfl⟩ := List.cons.inj heq
      simp only [scanLabel_quote, Option.bind_eq_bind, Option.bind_some, ih (n := n) (by omega),
        htext, String.ofList_toList, Option.pure_def]
    · rename_i hnot
      exact absurd rfl (hnot _)

/-- What follows the name of a block is not the value of an attribute. -/
theorem attributeValue_labelChars (labels : List String) (rest : List Char) :
    attributeValue? (labelChars labels ++ ' ' :: '\x7b' :: rest) = none := by
  cases labels with
  | nil =>
    rw [labelChars, List.nil_append, attributeValue?, skip_brace]
    simp
  | cons label labels =>
    simp only [labelChars, quote, List.cons_append]
    rw [attributeValue?, skip_quote]
    simp

theorem attributeValue_blanks (padding : Nat) (rest : List Char) :
    attributeValue? (blanks (padding + 1) ++ '=' :: rest) = some rest := by
  have hequals : Solid '=' := by constructor <;> decide
  rw [attributeValue?, skip_blanks hequals]
  rfl

theorem endLine_newline (cs : List Char) : endLine? ('\n' :: cs) = some cs := by
  rw [endLine?, skip_newline]
  rfl

/-! ### Reading -/

theorem readBody_word (n : Nat) (inner : Bool) (b : Body) (gap margin : Nat) (w : Word)
    (cs : List Char) :
    readBody (n + 1) inner b (indent gap margin (w.text.toList ++ ' ' :: cs)) =
      (match attributeValue? (' ' :: cs) with
      | some rest => do
        let (d, rest) ← readValue rest
        readBody n inner (← b.addAttribute w.text d) (← endLine? rest)
      | none => do
        let (labels, rest) ← readLabels (' ' :: cs).length (' ' :: cs)
        let (d, rest) ← readBlock n rest
        readBody n inner (b.addBlock w.text labels d) (← endLine? rest)) := by
  obtain ⟨c, rest, hw, hstart, -⟩ := w.shape
  obtain ⟨hsolid, hclose⟩ := solid_of_starts hstart
  have hname := w.readName_blank cs
  have hskip : skip true (indent gap margin (w.text.toList ++ ' ' :: cs)) =
      w.text.toList ++ ' ' :: cs := by
    rw [hw]
    exact skip_lines hsolid gap margin _
  rw [readBody, hskip]
  rw [hw, List.cons_append] at hname ⊢
  split
  · rename_i heq
    cases heq
  · rename_i heq
    exact absurd (List.cons.inj heq).1 hclose
  · have htext : String.ofList (c :: rest) = w.text := by rw [← hw, String.ofList_toList]
    rw [hname]
    cases hvalue : attributeValue? (' ' :: cs) with
    | none => simp only [Option.bind_eq_bind, Option.bind_some, htext, hvalue]
    | some value => simp only [Option.bind_eq_bind, Option.bind_some, htext, hvalue]

theorem readBody_attribute {n : Nat} {b b' : Body} {w : Word} {value : Value}
    (inner : Bool) (gap margin padding : Nat) (h : b.addAttribute w.text value.toDocument = some b')
    (rest : List Char) :
    readBody (n + 1) inner b (indent gap margin (w.text.toList ++
      (blanks (padding + 1) ++ '=' :: ' ' :: (value.chars ++ '\n' :: rest)))) =
        readBody n inner b' rest := by
  have hvalue := attributeValue_blanks padding (' ' :: (value.chars ++ '\n' :: rest))
  rw [blanks, List.replicate_succ, List.cons_append] at hvalue ⊢
  rw [readBody_word, hvalue]
  simp [value.readValue_chars, h, endLine_newline]

theorem readBody_block {n : Nat} (inner : Bool) (b : Body) (w : Word) (gap margin : Nat)
    (labels : List String) {cs rest : List Char} {d : Document}
    (h : readBlock n cs = some (d, '\n' :: rest)) :
    readBody (n + 1) inner b
      (indent gap margin (w.text.toList ++ (labelChars labels ++ ' ' :: '\x7b' :: cs))) =
        readBody n inner (b.addBlock w.text labels d) rest := by
  have hvalue := attributeValue_labelChars labels cs
  have hlabels := readLabels_labelChars labels (length_labels labels ('\x7b' :: cs)) cs
  obtain ⟨tail, htail⟩ : ∃ tail, labelChars labels ++ ' ' :: '\x7b' :: cs = ' ' :: tail := by
    cases labels with
    | nil => exact ⟨_, rfl⟩
    | cons label labels => exact ⟨_, rfl⟩
  rw [htail] at hvalue hlabels ⊢
  rw [readBody_word, hvalue]
  dsimp only
  rw [hlabels]
  simp [h, endLine_newline]

theorem readBody_close (n : Nat) (b : Body) (gap margin : Nat) (rest : List Char) :
    readBody (n + 1) true b (indent gap margin ('\x7d' :: rest)) = some (b.toDocument, rest) := by
  have hclose : Solid '\x7d' := by constructor <;> decide
  rw [readBody, indent, skip_lines hclose]
  rfl

theorem readBlock_lines (n : Nat) (cs : List Char) :
    readBlock (n + 1) ('\n' :: cs) = readBody n true {} cs := by
  rw [readBlock, skip_newline]
  rfl

/-- Items that are laid out come to the body, and the work that is left is enough for what ends
it. -/
theorem readBody_laid {items : List Item} {cs : List Char} (h : Laid items cs) {b b' : Body}
    (hitems : addItems items b = some b') {n : Nat} (hn : 2 * cs.length < n) (inner : Bool)
    (rest : List Char) :
    ∃ m, readBody n inner b (cs ++ rest) = readBody (m + 1) inner b' rest := by
  induction h generalizing b b' n inner rest with
  | nil =>
    obtain ⟨n, rfl⟩ : ∃ m, n = m + 1 := ⟨n - 1, by omega⟩
    cases hitems
    exact ⟨n, rfl⟩
  | @line gap margin padding name value items cs _ ih =>
    obtain ⟨b₁, hadd, hitems⟩ := Option.bind_eq_some_iff.mp hitems
    simp only [indent, List.length_append, List.length_cons] at hn
    obtain ⟨n, rfl⟩ : ∃ m, n = m + 1 := ⟨n - 1, by omega⟩
    obtain ⟨m, hm⟩ := ih hitems (n := n) (by omega) inner rest
    refine ⟨m, ?_⟩
    have hread := readBody_attribute (n := n) inner gap margin padding hadd (cs ++ rest)
    rw [← hm, ← hread]
    simp only [indent, List.append_assoc, List.cons_append]
  | @block gap margin gap' margin' name labels items' items body cs _ _ ihbody ih =>
    obtain ⟨b₁, hadd, hitems⟩ := Option.bind_eq_some_iff.mp hitems
    obtain ⟨b₂, hbody, rfl⟩ := Option.map_eq_some_iff.mp hadd
    simp only [indent, List.length_append, List.length_cons] at hn
    obtain ⟨n, rfl⟩ : ∃ m, n = m + 2 := ⟨n - 2, by omega⟩
    obtain ⟨m, hm⟩ := ih hitems (n := n + 1) (by omega) inner rest
    obtain ⟨m', hm'⟩ := ihbody hbody (n := n) (by omega) true
      (indent gap' margin' ('\x7d' :: '\n' :: (cs ++ rest)))
    refine ⟨m, ?_⟩
    have hblock : readBlock (n + 1)
        ('\n' :: (body ++ indent gap' margin' ('\x7d' :: '\n' :: (cs ++ rest)))) =
        some (b₂.toDocument, '\n' :: (cs ++ rest)) := by
      rw [readBlock_lines, hm', readBody_close]
    have hread := readBody_block inner b name gap margin labels hblock
    rw [← hm, ← hread]
    simp only [indent, List.append_assoc, List.cons_append]

/-- A text in which items are laid out is read as the document they make up. -/
theorem read_laid {items : List Item} {s : String} (h : Laid items s.toList) {d : Document}
    (hd : document? items = some d) : read s = some d := by
  obtain ⟨b, hb, rfl⟩ := Option.map_eq_some_iff.mp hd
  obtain ⟨m, hread⟩ := readBody_laid h hb (n := 2 * s.toList.length + 2) (by omega) false []
  rw [List.append_nil] at hread
  rw [read, hread]
  rfl

/-! ### Bodies -/

theorem put_new {name : String} {es : List (String × Node)} (h : es.lookup name = none)
    (node : Node) : put name node es = es ++ [(name, node)] := by
  induction es with
  | nil => rfl
  | cons e es ih =>
    obtain ⟨other, old⟩ := e
    rw [List.lookup_cons] at h
    split at h
    · cases h
    · rename_i hne
      rw [put, if_neg (Ne.symm (beq_eq_false_iff_ne.mp hne)), ih h, List.cons_append]

theorem put_last {name : String} {es : List (String × Node)} (h : es.lookup name = none)
    (old node : Node) : put name node (es ++ [(name, old)]) = es ++ [(name, node)] := by
  induction es with
  | nil => simp [put]
  | cons e es ih =>
    obtain ⟨other, old'⟩ := e
    rw [List.lookup_cons] at h
    split at h
    · cases h
    · rename_i hne
      rw [List.cons_append, put, if_neg (Ne.symm (beq_eq_false_iff_ne.mp hne)), ih h,
        List.cons_append]

theorem lookup_last {name : String} {es : List (String × Node)} (h : es.lookup name = none)
    (node : Node) : (es ++ [(name, node)]).lookup name = some node := by
  simp [List.lookup_append, h]

theorem addItems_append (xs ys : List Item) (b : Body) :
    addItems (xs ++ ys) b = (addItems xs b).bind (addItems ys) := by
  induction xs generalizing b with
  | nil => rfl
  | cons x xs ih =>
    rw [List.cons_append, addItems, addItems]
    cases x.addTo b with
    | none => rfl
    | some b' => exact ih b'

def attributeItem (a : Word × Value) : Item := .attribute a.1 a.2

def attributeNode (a : Word × Value) : String × Node := (a.1.text, .attribute a.2.toDocument)

theorem lookup_map_none {α : Type} (node : α → String × Node) {xs : List α} {name : String}
    (h : name ∉ xs.map fun x => (node x).1) : (xs.map node).lookup name = none := by
  rw [List.lookup_eq_none_iff]
  intro e he
  obtain ⟨x, hx, rfl⟩ := List.mem_map.mp he
  rw [bne_iff_ne]
  rintro rfl
  exact h (List.mem_map.mpr ⟨x, hx, rfl⟩)

/-- Attributes of different names come to a body in their order. -/
theorem addItems_attributes {as : List (Word × Value)} (h : (as.map (·.1.text)).Nodup) :
    addItems (as.map attributeItem) {} =
      some ⟨as.map attributeNode, (as.map (·.1.text)).reverse⟩ := by
  induction as using List.reverseRecOn with
  | nil => rfl
  | append_singleton as a ih =>
    rw [List.map_append, List.nodup_append] at h
    obtain ⟨hnodup, -, hnew⟩ := h
    have habsent : a.1.text ∉ as.map (·.1.text) := fun hmem => hnew _ hmem _ (by simp) rfl
    have hput := put_new (lookup_map_none attributeNode habsent)
      (.attribute a.2.toDocument)
    rw [List.map_append, addItems_append, ih hnodup]
    simp only [Option.bind_some, List.map_cons, List.map_nil, addItems, attributeItem, Item.addTo,
      Body.addAttribute, List.contains_eq_mem, List.mem_reverse, habsent, decide_false,
      Bool.false_eq_true, if_false, hput]
    simp [attributeNode]

section Blocks

variable {α : Type} {w : Word} {b : Body} {write : α → List Item} {doc : α → Document}

/-- Blocks without labels come to a body as one. -/
theorem addItems_blocks (hnew : b.nodes.lookup w.text = none) {xs : List α} (hxs : xs ≠ [])
    (h : ∀ x ∈ xs, document? (write x) = some (doc x)) :
    addItems (xs.map fun x => .block w [] (write x)) b =
      some { b with nodes := b.nodes ++ [(w.text, .blocks (xs.map doc))] } := by
  induction xs using List.reverseRecOn with
  | nil => exact absurd rfl hxs
  | append_singleton xs x ih =>
    obtain ⟨inner, hinner, hdoc⟩ := Option.map_eq_some_iff.mp (h x (by simp))
    rw [List.map_append, addItems_append]
    rcases eq_or_ne xs [] with rfl | hne
    · simp [addItems, Item.addTo, hinner, hdoc, Body.addBlock, hnew, addBlock, put_new hnew]
    · rw [ih hne fun x' hx' => h x' (List.mem_append_left _ hx')]
      simp [addItems, Item.addTo, hinner, hdoc, Body.addBlock, lookup_last hnew, addBlock,
        put_last hnew]

/-- Blocks of one name and different labels come to a body as one with a node for each. -/
theorem addItems_labelled {label : α → String} (hnew : b.nodes.lookup w.text = none) {xs : List α}
    (hxs : xs ≠ []) (hlabels : (xs.map label).Nodup)
    (h : ∀ x ∈ xs, document? (write x) = some (doc x)) :
    addItems (xs.map fun x => .block w [label x] (write x)) b =
      some { b with nodes := b.nodes ++
        [(w.text, .labelled (xs.map fun x => (label x, .blocks [doc x])))] } := by
  induction xs using List.reverseRecOn with
  | nil => exact absurd rfl hxs
  | append_singleton xs x ih =>
    obtain ⟨inner, hinner, hdoc⟩ := Option.map_eq_some_iff.mp (h x (by simp))
    rw [List.map_append, List.nodup_append] at hlabels
    obtain ⟨hnodup, -, hother⟩ := hlabels
    rw [List.map_append, addItems_append]
    rcases eq_or_ne xs [] with rfl | hne
    · simp [addItems, Item.addTo, hinner, hdoc, Body.addBlock, hnew, addBlock, put_new hnew]
    · have habsent : label x ∉ xs.map label := fun hmem => hother _ hmem _ (by simp) rfl
      have hlabel := lookup_map_none (fun x => (label x, Node.blocks [doc x])) habsent
      rw [ih hne hnodup fun x' hx' => h x' (List.mem_append_left _ hx')]
      simp [addItems, Item.addTo, hinner, hdoc, Body.addBlock, lookup_last hnew, addBlock,
        put_last hnew, hlabel, put_new hlabel]

end Blocks

/-! ### Documents -/

/-- What blocks without labels stand for. -/
def oneOrList : List Document → Document
  | [d] => d
  | ds => .list ds

theorem toDocument_blocks (ds : List Document) : (Node.blocks ds).toDocument = oneOrList ds := by
  unfold oneOrList
  split
  · rw [Node.toDocument]
  · rename_i hne
    rw [Node.toDocument]
    exact hne

theorem nodesToDocuments_map {α : Type} (node : α → String × Node) (xs : List α) :
    nodesToDocuments (xs.map node) = xs.map fun x => ((node x).1, (node x).2.toDocument) := by
  induction xs with
  | nil => rfl
  | cons x xs ih => rw [List.map_cons, nodesToDocuments, ih, List.map_cons]

theorem nodesToDocuments_append (es es' : List (String × Node)) :
    nodesToDocuments (es ++ es') = nodesToDocuments es ++ nodesToDocuments es' := by
  induction es with
  | nil => rfl
  | cons e es ih => rw [List.cons_append, nodesToDocuments, ih, nodesToDocuments, List.cons_append]

def attributeEntry (a : Word × Value) : String × Document := (a.1.text, a.2.toDocument)

theorem nodesToDocuments_attributes (as : List (Word × Value)) :
    nodesToDocuments (as.map attributeNode) = as.map attributeEntry := by
  rw [nodesToDocuments_map]
  simp [attributeNode, attributeEntry, Node.toDocument]

section Documents

variable {α : Type} {w : Word} (as : List (Word × Value)) {write : α → List Item}
  {doc : α → Document}

theorem document?_attributes (has : (as.map (·.1.text)).Nodup) :
    document? (as.map attributeItem) = some (.table (as.map attributeEntry)) := by
  rw [document?, addItems_attributes has, Option.map_some, Body.toDocument,
    nodesToDocuments_attributes]

/-- Attributes, and then blocks of one name. -/
theorem document?_blocks (has : (as.map (·.1.text)).Nodup) (hw : w.text ∉ as.map (·.1.text))
    {xs : List α} (hxs : xs ≠ []) (h : ∀ x ∈ xs, document? (write x) = some (doc x)) :
    document? (as.map attributeItem ++ xs.map fun x => .block w [] (write x)) =
      some (.table (as.map attributeEntry ++ [(w.text, oneOrList (xs.map doc))])) := by
  have hnew := lookup_map_none attributeNode hw
  rw [document?, addItems_append, addItems_attributes has, Option.bind_some,
    addItems_blocks hnew hxs h, Option.map_some, Body.toDocument, nodesToDocuments_append,
    nodesToDocuments_attributes, nodesToDocuments, toDocument_blocks]
  rfl

/-- Attributes, and then blocks of one name with a label each. -/
theorem document?_labelled {label : α → String} (has : (as.map (·.1.text)).Nodup)
    (hw : w.text ∉ as.map (·.1.text)) {xs : List α} (hxs : xs ≠ [])
    (hlabels : (xs.map label).Nodup) (h : ∀ x ∈ xs, document? (write x) = some (doc x)) :
    document? (as.map attributeItem ++ xs.map fun x => .block w [label x] (write x)) =
      some (.table (as.map attributeEntry ++
        [(w.text, .table (xs.map fun x => (label x, doc x)))])) := by
  have hnew := lookup_map_none attributeNode hw
  rw [document?, addItems_append, addItems_attributes has, Option.bind_some,
    addItems_labelled hnew hxs hlabels h, Option.map_some, Body.toDocument,
    nodesToDocuments_append, nodesToDocuments_attributes, nodesToDocuments, Node.toDocument,
    nodesToDocuments_map]
  simp only [Node.toDocument, nodesToDocuments]

end Documents

end Upkeep.Hcl
