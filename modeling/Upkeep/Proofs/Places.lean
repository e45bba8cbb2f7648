import Upkeep.Proofs.Settled

/-!
Documents that differ in one place, however deep it lies and whatever is around it. What is between
the place and the top is compared by value, because the texts that stand for expressions differ
around a place that differs.
-/

set_option autoImplicit false

namespace Upkeep

/-! ### Documents that differ in one place -/

/-- Records that differ in one field. -/
def InField (fields : List String) (name : String) (R : Document → Document → Prop)
    (d d' : Document) : Prop :=
  ∃ (s : Slot fields name) (v v' : Document), d.value = s.fill v ∧ d'.value = s.fill v' ∧ R v v'

/-- Tables that differ in one entry. -/
def InEntry (R : Document → Document → Prop) (d d' : Document) : Prop :=
  ∃ before name after v v', d.value = .table (before ++ (name, v) :: after) ∧
    d'.value = .table (before ++ (name, v') :: after) ∧ R v v'

/-- Groups that differ in the actions of one assertion. -/
def InGroup (R : Document → Document → Prop) : Document → Document → Prop :=
  InField Group.fields "assert" (InEntry (InField Assertion.fields "or" R))

/-- Actions that differ in the actions of one assertion of theirs. -/
def InAction (R : Document → Document → Prop) : Document → Document → Prop :=
  InField Action.fields "assert" (InEntry (InField Assertion.fields "or" R))

/-- Fleets that differ in the credentials of one machine. -/
def InFleet (R : Document → Document → Prop) : Document → Document → Prop :=
  InField Fleet.fields "machine" (InEntry (InField Machine.fields "auth" R))

namespace Document

def IsTable (d : Document) : Prop := ∃ entries, d.value = .table entries

def IsRecord (d : Document) : Prop := d.IsTable ∨ ∃ items, d.value = .list items

/-- A list of one table, and the table by itself. -/
def Lone (d d' : Document) : Prop := d.value = .list [d'] ∧ d'.IsTable

end Document

def BeginsWithText : List Document → Prop
  | [] => False
  | d :: _ => ∃ s, d.value = .text s

/-- Values for actions that differ in one action. An action may be written as a list, which begins
with a text and has the nested assertions in the fourth place; another list is a list of actions. -/
inductive Acting (R : Document → Document → Prop) (d d' : Document) : Prop where
  | item {before after : List Document} {x x' : Document} :
      d.value = .list (before ++ x :: after) → d'.value = .list (before ++ x' :: after) →
      (before.length = 3 → ¬ BeginsWithText before) → R x x' → Acting R d d'
  | alone : (∀ first rest, d.value = .list (first :: rest) → ¬ first.IsRecord) → R d d' →
      Acting R d d'

/-- Values for actions of which one has, so many sets of assertions deep, a list of one table where
the other has the table. -/
def Unwrapped : Nat → Document → Document → Prop
  | 0 => Document.Lone
  | n + 1 => Acting (InAction (Unwrapped n))

section Relations

variable {fields : List String} {name : String} {R R' : Document → Document → Prop}
  {d d' : Document} {cut : Prop} {dialect : Dialect}

/-! ### Readings of documents that differ in one place -/

theorem InEntry.named?_unmoved {α : Type} {item? : Document → Option α} (h : InEntry R d d')
    (hR : ∀ v v', R v v' → Unmoved cut (item? v) (item? v')) :
    Unmoved cut (d.named? item?) (d'.named? item?) := by
  obtain ⟨before, name, after, v, v', hd, hd', hv⟩ := h
  exact Document.named?_unmoved hd hd' (hR v v' hv)

theorem InField.assertion_unmoved {actions? : Document → Option (List Action)}
    (h : InField Assertion.fields "or" R d d')
    (hR : ∀ v v', R v v' → Unmoved cut (actions? v) (actions? v')) :
    Unmoved cut (Assertion.ofDocument? dialect actions? d)
      (Assertion.ofDocument? dialect actions? d') := by
  obtain ⟨s, v, v', hd, hd', hv⟩ := h
  exact Assertion.ofDocument?_unmoved hd hd' (hR v v' hv)

theorem InGroup.unmoved (h : InGroup R d d')
    (hR : ∀ v v', R v v' → Unmoved cut (actions? dialect v) (actions? dialect v')) :
    Unmoved cut (Group.ofDocument? dialect d) (Group.ofDocument? dialect d') := by
  obtain ⟨s, m, m', hd, hd', hm⟩ := h
  apply Group.ofDocument?_unmoved hd hd'
  apply hm.named?_unmoved
  intro a a' ha
  exact ha.assertion_unmoved hR

theorem InFleet.unmoved (h : InFleet R d d')
    (hR : ∀ v v', R v v' → Unmoved cut (credentials? dialect v) (credentials? dialect v')) :
    Unmoved cut (Fleet.ofDocument? dialect d) (Fleet.ofDocument? dialect d') := by
  obtain ⟨s, m, m', hd, hd', hm⟩ := h
  apply Fleet.ofDocument?_unmoved hd hd'
  apply hm.named?_unmoved
  rintro a a' ⟨s, v, v', ha, ha', hv⟩
  exact Machine.ofDocument?_unmoved ha ha' (hR v v' hv)

/-! ### Depths -/

theorem InField.depth_le (h : InField fields name R d d')
    (hR : ∀ v v', R v v' → v'.depth ≤ v.depth) : d'.depth ≤ d.depth := by
  obtain ⟨s, v, v', hd, hd', hv⟩ := h
  cases s with
  | table before after => exact Document.depth_table_middle hd hd' (hR v v' hv)
  | list before after position => exact Document.depth_list_middle hd hd' (hR v v' hv)

theorem InEntry.depth_le (h : InEntry R d d') (hR : ∀ v v', R v v' → v'.depth ≤ v.depth) :
    d'.depth ≤ d.depth := by
  obtain ⟨before, name, after, v, v', hd, hd', hv⟩ := h
  exact Document.depth_table_middle hd hd' (hR v v' hv)

theorem Document.Lone.depth_le (h : Lone d d') : d'.depth ≤ d.depth := by
  have hlt : d'.depth < (Document.list [d']).depth := depth_lt_of_mem_list (.head _)
  rw [← depth_value d, h.1]
  omega

theorem Unwrapped.depth_le {n : Nat} (h : Unwrapped n d d') : d'.depth ≤ d.depth := by
  induction n generalizing d d' with
  | zero => exact Document.Lone.depth_le h
  | succ n ih =>
    have haction {x x' : Document} (hx : InAction (Unwrapped n) x x') : x'.depth ≤ x.depth := by
      apply hx.depth_le
      intro m m' hm
      apply hm.depth_le
      intro a a' ha
      apply ha.depth_le
      intro u u' hu
      exact ih hu
    cases h with
    | item hd hd' _ hx => exact Document.depth_list_middle hd hd' (haction hx)
    | alone _ hx => exact haction hx

/-! ### Settling -/

theorem rel_mono {α : Type} {R P : α → α → Prop} {x y : Option α} (h : Option.Rel R x y)
    (hP : ∀ a b, x = some a → R a b → P a b) : Option.Rel P x y := by
  cases h with
  | none => exact .none
  | some hab => exact .some (hP _ _ rfl hab)

theorem rel_bind {α β : Type} {R : α → α → Prop} {x y : Option α} {next : α → Option β}
    (h : Option.Rel R x y) (hR : ∀ a b, x = some a → y = some b → R a b → next b = next a) :
    y.bind next = x.bind next := by
  cases h with
  | none => rfl
  | some hab => exact hR _ _ rfl rfl hab

namespace Document

theorem settled_list_middle {P : Document → Document → Prop} {before after : List Document}
    {v v' : Document} (hd : d.value = .list (before ++ v :: after))
    (hd' : d'.value = .list (before ++ v' :: after)) (hv : Option.Rel R v.settled v'.settled)
    (hP : ∀ front back w w', before.mapM settled = some front → R w w' →
      P (.list (front ++ w :: back)) (.list (front ++ w' :: back))) :
    Option.Rel P d.settled d'.settled := by
  rw [settled_list hd, settled_list hd', mapM_middle, mapM_middle]
  generalize v.settled = u, v'.settled = u' at hv ⊢
  cases hfront : before.mapM settled with
  | none => exact .none
  | some front =>
    cases hv with
    | none => exact .none
    | some hw =>
      cases after.mapM settled with
      | none => exact .none
      | some back => exact .some (hP front back _ _ hfront hw)

theorem settled_table_middle {P : Document → Document → Prop}
    {before after : List (String × Document)} {v v' : Document}
    (hd : d.value = .table (before ++ (name, v) :: after))
    (hd' : d'.value = .table (before ++ (name, v') :: after))
    (hv : Option.Rel R v.settled v'.settled)
    (hP : ∀ front back w w', R w w' →
      P (.table (front ++ (name, w) :: back)) (.table (front ++ (name, w') :: back))) :
    Option.Rel P d.settled d'.settled := by
  rw [settled_table hd, settled_table hd', mapM_middle, mapM_middle]
  simp only [settledEntry]
  generalize v.settled = u, v'.settled = u' at hv ⊢
  cases before.mapM settledEntry with
  | none => exact .none
  | some front =>
    cases hv with
    | none => exact .none
    | some hw =>
      cases after.mapM settledEntry with
      | none => exact .none
      | some back => exact .some (hP front back _ _ hw)

variable {w : Document}

theorem isTable_settled (hsettled : d.settled = some w) : w.IsTable ↔ d.IsTable := by
  cases settles_of_settled hsettled with
  | list hvalue _ => simp [IsTable, hvalue, value]
  | table hvalue _ => simp [IsTable, hvalue, value]
  | scalar _ _ =>
    unfold IsTable
    rw [value_settled hsettled]

theorem isRecord_settled (hsettled : d.settled = some w) : w.IsRecord ↔ d.IsRecord := by
  cases settles_of_settled hsettled with
  | list hvalue _ => simp [IsRecord, hvalue, value]
  | table hvalue _ => simp [IsRecord, IsTable, hvalue, value]
  | scalar _ _ =>
    unfold IsRecord IsTable
    rw [value_settled hsettled]

theorem value_text_of_settled (hsettled : d.settled = some w) {s : String}
    (hw : w.value = .text s) : d.value = .text s := by
  cases settles_of_settled hsettled with
  | list _ _ | table _ _ => cases hw
  | scalar _ _ =>
    rw [value_settled hsettled] at hw
    exact hw

theorem value_list_of_settled (hsettled : d.settled = some w) {ws : List Document}
    (hw : w.value = .list ws) : ∃ ds, d.value = .list ds ∧ ds.mapM settled = some ws := by
  cases settles_of_settled hsettled with
  | list hvalue hws =>
    obtain rfl := Document.list.inj hw
    exact ⟨_, hvalue, hws⟩
  | table _ _ => cases hw
  | scalar hlist _ =>
    rw [value_settled hsettled] at hw
    exact absurd hw (hlist ws)

theorem value_table_of_settled (hsettled : d.settled = some w) {ws : List (String × Document)}
    (hw : w.value = .table ws) : ∃ es, d.value = .table es ∧ es.mapM settledEntry = some ws := by
  cases settles_of_settled hsettled with
  | table hvalue hws =>
    obtain rfl := Document.table.inj hw
    exact ⟨_, hvalue, hws⟩
  | list _ _ => cases hw
  | scalar _ htable =>
    rw [value_settled hsettled] at hw
    exact absurd hw (htable ws)

theorem Lone.settled (h : Lone d d') : Option.Rel Lone d.settled d'.settled := by
  rw [settled_list h.1, List.mapM_cons, List.mapM_nil]
  cases hsettled : d'.settled with
  | none => exact .none
  | some w' => exact .some ⟨rfl, (isTable_settled hsettled).mpr h.2⟩

end Document

theorem InField.settled (h : InField fields name R d d')
    (hR : ∀ v v', R v v' → Option.Rel R' v.settled v'.settled) :
    Option.Rel (InField fields name R') d.settled d'.settled := by
  obtain ⟨s, v, v', hd, hd', hv⟩ := h
  cases s with
  | table before after =>
    refine Document.settled_table_middle hd hd' (hR v v' hv) fun front back w w' hw => ?_
    exact ⟨.table front back, w, w', rfl, rfl, hw⟩
  | list before after position =>
    refine Document.settled_list_middle hd hd' (hR v v' hv) fun front back w w' hfront hw => ?_
    have hlength := (mapM_eq_some_iff_forall₂.mp hfront).length_eq
    rw [hlength] at position
    exact ⟨.list front back position, w, w', rfl, rfl, hw⟩

theorem InEntry.settled (h : InEntry R d d')
    (hR : ∀ v v', R v v' → Option.Rel R' v.settled v'.settled) :
    Option.Rel (InEntry R') d.settled d'.settled := by
  obtain ⟨before, name, after, v, v', hd, hd', hv⟩ := h
  refine Document.settled_table_middle hd hd' (hR v v' hv) fun front back w w' hw => ?_
  exact ⟨front, name, back, w, w', rfl, rfl, hw⟩

theorem Acting.settled (h : Acting R d d')
    (hR : ∀ x x', R x x' → Option.Rel R' x.settled x'.settled) :
    Option.Rel (Acting R') d.settled d'.settled := by
  cases h with
  | item hd hd' hfourth hx =>
    refine Document.settled_list_middle hd hd' (hR _ _ hx) fun front back w w' hfront hw => ?_
    refine .item rfl rfl (fun hlength hbegins => ?_) hw
    have hall := mapM_eq_some_iff_forall₂.mp hfront
    apply hfourth (hall.length_eq.trans hlength)
    cases hall with
    | nil => cases hlength
    | cons hfirst _ =>
      obtain ⟨s, hs⟩ := hbegins
      exact ⟨s, Document.value_text_of_settled hfirst hs⟩
  | alone hfirst hx =>
    refine rel_mono (hR _ _ hx) fun w w' hd hw => .alone (fun first rest hlist => ?_) hw
    obtain ⟨ds, hds, hall⟩ := Document.value_list_of_settled hd hlist
    cases mapM_eq_some_iff_forall₂.mp hall with
    | cons hsettled _ =>
      rw [Document.isRecord_settled hsettled]
      exact hfirst _ _ hds

theorem Unwrapped.settled {n : Nat} (h : Unwrapped n d d') :
    Option.Rel (Unwrapped n) d.settled d'.settled := by
  induction n generalizing d d' with
  | zero => exact Document.Lone.settled h
  | succ n ih =>
    apply Acting.settled h
    intro x x' hx
    apply hx.settled
    intro m m' hm
    apply hm.settled
    intro a a' ha
    apply ha.settled
    intro u u' hu
    exact ih hu

end Relations

end Upkeep
