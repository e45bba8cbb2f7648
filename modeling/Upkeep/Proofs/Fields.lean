import Mathlib.Data.List.Forall2
import Upkeep.Machine.Encoding
import Upkeep.Proofs.Accepted
import Upkeep.Proofs.Written

/-!
Records that differ in one field. A slot is a record without the value of one of its fields; what is
read from the record depends on the value only through what is read from the value.
-/

set_option autoImplicit false

namespace Upkeep

/-! ### Lists -/

section Lists

variable {α β : Type} {f : α → Option β}

theorem mapM_middle (before : List α) (x : α) (after : List α) :
    (before ++ x :: after).mapM f = (before.mapM f).bind fun ys => (f x).bind fun y =>
      (after.mapM f).map fun zs => ys ++ y :: zs := by
  rw [List.mapM_append, List.mapM_cons]
  cases before.mapM f with
  | none => rfl
  | some ys =>
    cases f x with
    | none => rfl
    | some y => cases after.mapM f <;> rfl

theorem mapM_eq_some_iff_forall₂ {xs : List α} {ys : List β} :
    xs.mapM f = some ys ↔ List.Forall₂ (fun x y => f x = some y) xs ys := by
  induction xs generalizing ys with
  | nil =>
    rw [List.mapM_nil, List.forall₂_nil_left_iff]
    exact Option.some_inj.trans eq_comm
  | cons x xs ih =>
    simp only [List.mapM_cons, Option.bind_eq_bind, Option.bind_eq_some_iff, Option.pure_def,
      Option.some.injEq, List.forall₂_cons_left_iff, ih]
    constructor
    · rintro ⟨y, hy, ys', hys', rfl⟩
      exact ⟨y, ys', hy, hys', rfl⟩
    · rintro ⟨y, ys', hy, hys', rfl⟩
      exact ⟨y, hy, ys', hys', rfl⟩

theorem mapM_congr {f' : α → Option β} {xs : List α} (h : ∀ x ∈ xs, f x = f' x) :
    xs.mapM f = xs.mapM f' := by
  induction xs with
  | nil => rfl
  | cons x xs ih =>
    obtain ⟨hx, hxs⟩ := List.forall_mem_cons.mp h
    rw [List.mapM_cons, List.mapM_cons, hx, ih hxs]

theorem mapM_bind {γ : Type} {g : β → Option γ} (xs : List α) :
    ((xs.mapM f).bind fun ys => ys.mapM g) = xs.mapM fun x => (f x).bind g := by
  induction xs with
  | nil => rfl
  | cons x xs ih =>
    rw [List.mapM_cons, List.mapM_cons, ← ih]
    cases f x with
    | none => rfl
    | some y =>
      cases xs.mapM f with
      | none => cases hy : g y <;> simp [hy]
      | some ys => simp

end Lists

/-! ### Readings that stay what they are -/

/-- The second reading is what the first is, or the first is cut short and comes to nothing. -/
structure Unmoved {α : Type} (cut : Prop) (x y : Option α) : Prop where
  same : ¬ cut → y = x
  nothing : cut → x = none

namespace Unmoved

variable {α β : Type} {cut : Prop}

theorem none : Unmoved cut (none : Option α) none := ⟨fun _ => rfl, fun _ => rfl⟩

theorem kept {x y : Option α} (h : y = x) : Unmoved False x y := ⟨fun _ => h, False.elim⟩

theorem refused {x y : Option α} (h : x = Option.none) : Unmoved True x y :=
  ⟨fun hno => absurd trivial hno, fun _ => h⟩

theorem bind {x y : Option α} (h : Unmoved cut x y) (next : α → Option β) :
    Unmoved cut (x.bind next) (y.bind next) where
  same hcut := by rw [h.same hcut]
  nothing hcut := by rw [h.nothing hcut, Option.bind_none]

theorem after {x : Option α} {next next' : α → Option β}
    (h : ∀ a, Unmoved cut (next a) (next' a)) : Unmoved cut (x.bind next) (x.bind next') := by
  cases x with
  | none => exact .none
  | some a => exact h a

theorem map {x y : Option α} (h : Unmoved cut x y) (f : α → β) :
    Unmoved cut (x.map f) (y.map f) where
  same hcut := by rw [h.same hcut]
  nothing hcut := by rw [h.nothing hcut, Option.map_none]

end Unmoved

/-! ### Slots -/

/-- A record without the value of one field, which belongs under its name or at its position. -/
inductive Slot (fields : List String) (name : String) where
  | table (before after : List (String × Document))
  | list (before after : List Document) (position : fields[before.length]? = some name)

namespace Slot

variable {fields : List String} {name : String}

def fill (v : Document) : Slot fields name → Document
  | .table before after => .table (before ++ (name, v) :: after)
  | .list before after _ => .list (before ++ v :: after)

end Slot

namespace Document

variable {α : Type} {fields : List String} {name : String}

theorem value_ne_expression (d : Document) (written : String) (e : Document) :
    d.value ≠ .expression written e := by
  induction d using value.induct with
  | case1 _ d ih => exact ih
  | case2 d hplain =>
    intro heq
    cases d with
    | expression w e' => exact hplain w e' rfl
    | _ => cases heq

/-- What sees through expressions sees the value. -/
theorem apply_value {f : Document → α} (hf : ∀ written d, f (.expression written d) = f d)
    (d : Document) : f d.value = f d := by
  induction d using value.induct with
  | case1 written d ih => exact ih.trans (hf written d).symm
  | case2 d hplain => cases d <;> first | rfl | exact absurd rfl (hplain _ _)

theorem entries?_value (dialect : Dialect) (fields : List String) (d : Document) :
    d.value.entries? dialect fields = d.entries? dialect fields :=
  apply_value (fun _ _ => rfl) d

theorem entries?_cases {dialect : Dialect} {d : Document} {entries : List (String × Document)}
    (h : d.entries? dialect fields = some entries) :
    d.value = .table entries ∨ ∃ items, d.value = .list items ∧ entries = fields.zip items := by
  rw [← entries?_value] at h
  cases hvalue : d.value with
  | table es =>
    rw [hvalue, entries?] at h
    split at h
    · obtain rfl := Option.some.inj h
      exact Or.inl rfl
    · cases h
  | list items =>
    rw [hvalue, entries?] at h
    split at h
    · exact Or.inr ⟨items, rfl, (Option.some.inj h).symm⟩
    · cases h
  | expression written e => exact absurd hvalue (d.value_ne_expression written e)
  | null | bool _ | int _ | real _ | text _ | unreadable =>
    rw [hvalue] at h
    cases h

theorem entries?_eq_of_table (dialect : Dialect) (entries : List (String × Document)) :
    entries? dialect fields (.table entries) =
      if ∀ field ∈ fields, (entries.map (·.1)).count field ≤ 1 then some entries else none := by
  have hcount (field : String) : (entries.filter fun e => e.1 == field).length =
      (entries.map (·.1)).count field := by
    rw [List.count, List.countP_map, List.countP_eq_length_filter]
    rfl
  simp only [entries?, hcount, List.all_eq_true, decide_eq_true_eq]

theorem field_self {front back : List (String × Document)} (hfront : name ∉ front.map (·.1))
    (v : Document) (absent : Option α) (read : Document → Option α) :
    field (front ++ (name, v) :: back) name absent read = read v := by
  have hnone : front.lookup name = none := by
    rw [List.lookup_eq_none_iff]
    intro e he
    rw [bne_iff_ne]
    rintro rfl
    exact hfront (List.mem_map_of_mem he)
  rw [field, List.lookup_append, hnone, Option.none_or, List.lookup_cons_self]

theorem field_other {other : String} (hother : other ≠ name)
    (front back : List (String × Document)) (v : Document) (absent : Option α)
    (read : Document → Option α) :
    field (front ++ (name, v) :: back) other absent read =
      field (front ++ back) other absent read := by
  have hne : (other == name) = false := beq_eq_false_iff_ne.mpr hother
  rw [field, field, List.lookup_append, List.lookup_append, List.lookup_cons, hne]

end Document

namespace Slot

variable {α : Type} {fields : List String} {name : String} {dialect : Dialect}
  {d d' v v' : Document}

/-- Whatever fills a slot, the entries are refused, or it is the first entry of its name. -/
theorem entries?_fill (hfields : fields.Nodup) (hname : name ∈ fields) (dialect : Dialect)
    (s : Slot fields name) :
    (∀ v, (s.fill v).entries? dialect fields = none) ∨
      ∃ front back, name ∉ front.map (·.1) ∧
        ∀ v, (s.fill v).entries? dialect fields = some (front ++ (name, v) :: back) := by
  cases s with
  | table before after =>
    have hnames (v : Document) : (before ++ (name, v) :: after).map (·.1) =
        before.map (·.1) ++ name :: after.map (·.1) := by
      rw [List.map_append, List.map_cons]
    simp only [fill, Document.entries?_eq_of_table, hnames]
    split
    · rename_i honce
      refine Or.inr ⟨before, after, fun hmem => ?_, fun v => rfl⟩
      have hbefore := List.count_pos_iff.mpr hmem
      have hone := honce name hname
      rw [List.count_append, List.count_cons_self] at hone
      omega
    · exact Or.inl fun v => rfl
  | list before after position =>
    obtain ⟨hlt, hat⟩ := List.getElem?_eq_some_iff.mp position
    have hsplit : fields =
        fields.take before.length ++ name :: fields.drop (before.length + 1) := by
      rw [← hat, ← List.drop_eq_getElem_cons hlt, List.take_append_drop]
    have hnotin : name ∉ fields.take before.length := by
      intro hmem
      rw [hsplit] at hfields
      exact (List.nodup_append.mp hfields).2.2 name hmem name (.head _) rfl
    have hzip (v : Document) : fields.zip (before ++ v :: after) =
        (fields.take before.length).zip before ++
          (name, v) :: (fields.drop (before.length + 1)).zip after := by
      have hlength : (fields.take before.length).length = before.length := by
        rw [List.length_take]
        omega
      conv_lhs => rw [hsplit]
      rw [List.zip_append hlength, List.zip_cons_cons]
    simp only [fill, Document.entries?, hzip, List.length_append, List.length_cons]
    split
    · refine Or.inr ⟨_, _, fun hmem => ?_, fun v => rfl⟩
      obtain ⟨⟨name', d⟩, he, rfl⟩ := List.mem_map.mp hmem
      exact hnotin (List.of_mem_zip he).1
    · exact Or.inl fun v => rfl

/-- If a reader of entries does not move with the value under the name, neither does a reader of
records with the value in the slot. -/
theorem unmoved {cut : Prop} {s : Slot fields name} (hfields : fields.Nodup)
    (hname : name ∈ fields) {read : List (String × Document) → Option α} (hd : d.value = s.fill v)
    (hd' : d'.value = s.fill v')
    (hread : ∀ front back, name ∉ front.map (·.1) →
      Unmoved cut (read (front ++ (name, v) :: back)) (read (front ++ (name, v') :: back))) :
    Unmoved cut ((d.entries? dialect fields).bind read)
      ((d'.entries? dialect fields).bind read) := by
  rw [← Document.entries?_value dialect fields d, hd, ← Document.entries?_value dialect fields d',
    hd']
  rcases s.entries?_fill hfields hname dialect with hnone | ⟨front, back, hfront, hsome⟩
  · rw [hnone, hnone]
    exact .none
  · rw [hsome, hsome]
    exact hread front back hfront

theorem entries?_some {s : Slot fields name} (hfields : fields.Nodup) (hname : name ∈ fields)
    (hd : d.value = s.fill v) {entries : List (String × Document)}
    (h : d.entries? dialect fields = some entries) (absent : Option α)
    (read : Document → Option α) : Document.field entries name absent read = read v := by
  rw [← Document.entries?_value dialect fields d, hd] at h
  rcases s.entries?_fill hfields hname dialect with hnone | ⟨front, back, hfront, hsome⟩
  · rw [hnone] at h
    cases h
  · rw [hsome] at h
    cases h
    exact Document.field_self hfront v absent read

end Slot

/-! ### Fields of actions, assertions and machines -/

def Action.fields : List String := ["action", "source_path", "destination_path", "assert"]

def Assertion.fields : List String :=
  ["kind", "order", "file_path", "hash", "base_path", "regex", "or"]

def Group.fields : List String := ["name", "assert"]

def Machine.fields : List String :=
  ["kind", "destination", "username", "auth", "host_key", "timeout_secs"]

def Fleet.fields : List String := ["name", "machine"]

section Records

variable {α : Type} {cut : Prop} {dialect : Dialect} {d d' v v' : Document}

theorem Document.named?_unmoved {item? : Document → Option α}
    {before after : List (String × Document)} {name : String}
    (hd : d.value = .table (before ++ (name, v) :: after))
    (hd' : d'.value = .table (before ++ (name, v') :: after))
    (h : Unmoved cut (item? v) (item? v')) : Unmoved cut (d.named? item?) (d'.named? item?) := by
  simp only [named?, hd, hd', mapM_middle]
  refine Unmoved.map (.after fun ys => Unmoved.bind ?_ _) _
  exact h.map _

theorem Action.ofDocument?_unmoved {nested? : Document → Option (Named Assertion)}
    {s : Slot Action.fields "assert"} (hd : d.value = s.fill v) (hd' : d'.value = s.fill v')
    (h : Unmoved cut (nested? v) (nested? v')) :
    Unmoved cut (Action.ofDocument? dialect nested? d) (Action.ofDocument? dialect nested? d') := by
  refine Slot.unmoved (by decide) (by decide) hd hd' fun front back hfront => ?_
  simp only [Document.field_other (by decide : "action" ≠ "assert"),
    Document.field_other (by decide : "source_path" ≠ "assert"),
    Document.field_other (by decide : "destination_path" ≠ "assert"),
    Document.field_self hfront]
  refine .after fun kind => .after fun source => .after fun destination => ?_
  exact h.bind _

theorem Assertion.ofDocument?_unmoved {actions? : Document → Option (List Action)}
    {s : Slot Assertion.fields "or"} (hd : d.value = s.fill v) (hd' : d'.value = s.fill v')
    (h : Unmoved cut (actions? v) (actions? v')) :
    Unmoved cut (Assertion.ofDocument? dialect actions? d)
      (Assertion.ofDocument? dialect actions? d') := by
  refine Slot.unmoved (by decide) (by decide) hd hd' fun front back hfront => ?_
  simp only [Document.field_other (by decide : "kind" ≠ "or"),
    Document.field_other (by decide : "order" ≠ "or"),
    Document.field_other (by decide : "file_path" ≠ "or"),
    Document.field_other (by decide : "hash" ≠ "or"),
    Document.field_other (by decide : "base_path" ≠ "or"),
    Document.field_other (by decide : "regex" ≠ "or"), Document.field_self hfront]
  refine .after fun kind => .after fun order => .after fun filePath => .after fun hash =>
    .after fun basePath => .after fun regex => ?_
  exact h.bind _

theorem Group.ofDocument?_unmoved {s : Slot Group.fields "assert"} (hd : d.value = s.fill v)
    (hd' : d'.value = s.fill v')
    (h : Unmoved cut (v.named? (Assertion.ofWhole? dialect))
      (v'.named? (Assertion.ofWhole? dialect))) :
    Unmoved cut (Group.ofDocument? dialect d) (Group.ofDocument? dialect d') := by
  refine Slot.unmoved (by decide) (by decide) hd hd' fun front back hfront => ?_
  simp only [Document.field_other (by decide : "name" ≠ "assert"), Document.field_self hfront]
  refine .after fun name => ?_
  exact h.bind _

theorem Machine.ofDocument?_unmoved {s : Slot Machine.fields "auth"} (hd : d.value = s.fill v)
    (hd' : d'.value = s.fill v')
    (h : Unmoved cut (credentials? dialect v) (credentials? dialect v')) :
    Unmoved cut (Machine.ofDocument? dialect d) (Machine.ofDocument? dialect d') := by
  refine Slot.unmoved (by decide) (by decide) hd hd' fun front back hfront => ?_
  simp only [Document.field_other (by decide : "kind" ≠ "auth"),
    Document.field_other (by decide : "destination" ≠ "auth"),
    Document.field_other (by decide : "username" ≠ "auth"),
    Document.field_other (by decide : "host_key" ≠ "auth"),
    Document.field_other (by decide : "timeout_secs" ≠ "auth"), Document.field_self hfront]
  refine .after fun kind => .after fun destination => .after fun username => ?_
  exact h.bind _

theorem Fleet.ofDocument?_unmoved {s : Slot Fleet.fields "machine"} (hd : d.value = s.fill v)
    (hd' : d'.value = s.fill v')
    (h : Unmoved cut (v.named? (Machine.ofDocument? dialect))
      (v'.named? (Machine.ofDocument? dialect))) :
    Unmoved cut (Fleet.ofDocument? dialect d) (Fleet.ofDocument? dialect d') := by
  refine Slot.unmoved (by decide) (by decide) hd hd' fun front back hfront => ?_
  simp only [Document.field_other (by decide : "name" ≠ "machine"), Document.field_self hfront]
  refine .after fun name => ?_
  exact h.bind _

/-- The actions of an assertion are those in its field. -/
theorem Assertion.ofDocument?_or {actions? : Document → Option (List Action)}
    {s : Slot Assertion.fields "or"} (hd : d.value = s.fill v) {a : Assertion}
    (h : Assertion.ofDocument? dialect actions? d = some a) : actions? v = some a.actions := by
  simp only [Assertion.ofDocument?, Option.bind_eq_bind, Option.bind_eq_some_iff, Option.pure_def,
    Option.some.injEq] at h
  obtain ⟨entries, hentries, kind, -, order, -, filePath, -, hash, -, basePath, -, regex, -,
    actions, hactions, rfl⟩ := h
  rw [Slot.entries?_some (by decide) (by decide) hd hentries] at hactions
  exact hactions

/-- The credentials of a machine are those in its field. -/
theorem Machine.ofDocument?_auth {s : Slot Machine.fields "auth"} (hd : d.value = s.fill v)
    {m : Machine} (h : Machine.ofDocument? dialect d = some m) :
    credentials? dialect v = some m.auth := by
  simp only [Machine.ofDocument?, Option.bind_eq_bind, Option.bind_eq_some_iff, Option.pure_def,
    Option.some.injEq] at h
  obtain ⟨entries, hentries, kind, -, destination, -, username, -, auth, hauth, hostKey, -,
    timeout, -, rfl⟩ := h
  rw [Slot.entries?_some (by decide) (by decide) hd hentries] at hauth
  exact hauth

end Records

end Upkeep
