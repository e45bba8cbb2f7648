import Upkeep.Proofs.Places
import Upkeep.Spec.Decode

/-!
Single items. Where a list is wanted, one table by itself is read as the list of it alone, at any
depth and whatever is around it; a list of tables is read table by table. One list is not read so:
that of a credential with the password null and no more, which no credential is, but which passes
for the fields of one.
-/

set_option autoImplicit false

namespace Upkeep

namespace Document

variable {α : Type} {d : Document}

/-! ### Held documents -/

def Held (d : Document) : Prop := ∃ d₀ : Document, d₀.settled = some d

theorem Held.value_eq (h : d.Held) : d.value = d := by
  obtain ⟨d₀, hd₀⟩ := h
  exact value_settled hd₀

theorem Held.of_mem_list {ds : List Document} (h : (Document.list ds).Held) {x : Document}
    (hx : x ∈ ds) : x.Held := by
  obtain ⟨d₀, hd₀⟩ := h
  obtain ⟨ds₀, -, hall⟩ := value_list_of_settled hd₀ rfl
  obtain ⟨x₀, -, hx₀⟩ := mem_mapM hall hx
  exact ⟨x₀, hx₀⟩

theorem Held.of_mem_table {es : List (String × Document)} (h : (Document.table es).Held)
    {e : String × Document} (he : e ∈ es) : e.2.Held := by
  obtain ⟨d₀, hd₀⟩ := h
  obtain ⟨es₀, -, hall⟩ := value_table_of_settled hd₀ rfl
  obtain ⟨e₀, -, he₀⟩ := mem_mapM hall he
  obtain ⟨x, hx, rfl⟩ := Option.map_eq_some_iff.mp he₀
  exact ⟨e₀.2, hx⟩

theorem Held.of_fill {fields : List String} {name : String} {s : Slot fields name} {v : Document}
    (h : d.Held) (hd : d.value = s.fill v) : v.Held := by
  rw [h.value_eq] at hd
  subst hd
  cases s with
  | table before after => exact h.of_mem_table (List.mem_append_right before (.head after))
  | list before after position => exact h.of_mem_list (List.mem_append_right before (.head after))

/-! ### One or many -/

variable {item? : Document → Option α}

theorem oneOrMany?_list {ds : List Document}
    (h : ds.mapM item? = none → item? (.list ds) = none) :
    (Document.list ds).oneOrMany? item? = ds.mapM item? := by
  rw [oneOrMany?]
  cases hall : ds.mapM item? with
  | some xs => rfl
  | none => rw [h hall, Option.map_none]

theorem oneOrMany?_alone (h : ∀ ds, d = .list ds → ds.mapM item? = none) :
    d.oneOrMany? item? = (item? d).map ([·]) := by
  cases d with
  | list ds => rw [oneOrMany?, h ds rfl]
  | _ => rfl

/-- What is settled and is a list of tables is read table by table, if it does not pass for one
item. -/
theorem oneOrMany?_settled_list {ds : List Document} (hd : d.value = .list ds)
    (hlist : ∀ ws, ds.mapM settled = some ws → ws.mapM item? = none → item? (.list ws) = none) :
    d.settled.bind (oneOrMany? item?) = ds.mapM fun x => x.settled.bind item? := by
  have hboth : (ds.mapM settled).bind (fun ws => ws.mapM item?) =
      ds.mapM fun x => x.settled.bind item? := mapM_bind ds
  rw [settled_list hd, ← hboth]
  cases hall : ds.mapM settled with
  | none => rfl
  | some ws => exact oneOrMany?_list (hlist ws hall)

theorem oneOrMany?_settled_table (h : d.IsTable) :
    d.settled.bind (oneOrMany? item?) = (d.settled.bind item?).map ([·]) := by
  cases hsettled : d.settled with
  | none => rfl
  | some w =>
    refine oneOrMany?_alone fun ds hds => ?_
    obtain ⟨es, hes⟩ := (isTable_settled hsettled).mpr h
    rw [hds] at hes
    cases hes

theorem mapM_eq_some_iff_singles {whole? : Document → Option (List α)} {ds : List Document}
    (h : ∀ d ∈ ds, whole? d = (item? d).map ([·])) {xs : List α} :
    ds.mapM item? = some xs ↔ List.Forall₂ (fun d x => whole? d = some [x]) ds xs := by
  rw [mapM_eq_some_iff_forall₂]
  induction ds generalizing xs with
  | nil => rw [List.forall₂_nil_left_iff, List.forall₂_nil_left_iff]
  | cons d ds ih =>
    obtain ⟨hd, hds⟩ := List.forall_mem_cons.mp h
    rw [List.forall₂_cons_left_iff, List.forall₂_cons_left_iff]
    simp only [ih hds, hd]
    cases item? d <;> simp

end Document

/-! ### Actions -/

theorem Document.isRecord_of_entries? {dialect : Dialect} {fields : List String} {d : Document}
    {entries : List (String × Document)} (h : d.entries? dialect fields = some entries) :
    d.IsRecord := by
  rcases entries?_cases h with hvalue | ⟨items, hvalue, -⟩
  · exact Or.inl ⟨_, hvalue⟩
  · exact Or.inr ⟨items, hvalue⟩

section Actions

variable {n : Nat} {x : Action}

theorem heldAction?_isRecord {d : Document} (h : heldAction? n d = some x) : d.IsRecord := by
  obtain ⟨entries, hentries, -⟩ := Option.bind_eq_some_iff.mp h
  exact Document.isRecord_of_entries? hentries

/-- An action that is written as a list has texts in the first three of four places. -/
theorem heldAction?_list {ds : List Document} (h : heldAction? n (.list ds) = some x) :
    ds.length ≤ 4 ∧ ∀ d ∈ ds.take 3, ∃ s, d.text? = some s := by
  simp only [heldAction?, Action.ofDocument?, Option.bind_eq_bind, Option.bind_eq_some_iff] at h
  obtain ⟨entries, hentries, kind, hkind, source, hsource, destination, hdestination, -⟩ := h
  rw [Document.entries?] at hentries
  split at hentries
  · rename_i hlength
    obtain rfl := Option.some.inj hentries
    refine ⟨by simpa [Dialect.held] using hlength, ?_⟩
    rcases ds with _ | ⟨a, _ | ⟨b, _ | ⟨c, rest⟩⟩⟩
    all_goals simp_all [Document.field, List.lookup_cons]
  · cases hentries

theorem heldAction?_tables {ds : List Document} (htables : ∀ d ∈ ds, d.Held ∧ d.IsTable)
    (hds : ds ≠ []) : heldAction? n (.list ds) = none := by
  rw [Option.eq_none_iff_forall_ne_some]
  intro x hx
  obtain ⟨d, rest, rfl⟩ := List.exists_cons_of_ne_nil hds
  obtain ⟨hheld, entries, hentries⟩ := htables d (.head rest)
  obtain ⟨s, hs⟩ := (heldAction?_list hx).2 d (.head _)
  rw [← hheld.value_eq, hentries] at hs
  cases hs

theorem heldActions?_list {ds : List Document} (htables : ∀ d ∈ ds, d.Held ∧ d.IsTable) :
    heldActions? n (.list ds) = ds.mapM (heldAction? n) := by
  rw [heldActions?_eq]
  apply Document.oneOrMany?_list
  intro hnone
  apply heldAction?_tables htables
  rintro rfl
  cases hnone

theorem heldActions?_table {d : Document} (hheld : d.Held) (h : d.IsTable) :
    heldActions? n d = (heldAction? n d).map ([·]) := by
  rw [heldActions?_eq]
  refine Document.oneOrMany?_alone fun ds hds => ?_
  obtain ⟨es, hes⟩ := h
  rw [hheld.value_eq, hds] at hes
  cases hes

/-- Where an action stands in a list, the list is not an action. -/
theorem heldAction?_middle {before after : List Document} {d : Document}
    (hheld : (Document.list (before ++ d :: after)).Held) (hd : d.IsRecord)
    (hfourth : before.length = 3 → ¬ BeginsWithText before) :
    heldAction? n (.list (before ++ d :: after)) = none := by
  have htext {e : Document} (he : e ∈ before ++ d :: after) {s : String} (hs : e.text? = some s) :
      e = .text s := by
    have hvalue := (hheld.of_mem_list he).value_eq
    cases e with
    | text s' =>
      cases hs
      rfl
    | expression written e' => exact absurd hvalue (Document.value_ne_expression _ _ _)
    | _ => cases hs
  rw [Option.eq_none_iff_forall_ne_some]
  intro x hx
  obtain ⟨hlength, htexts⟩ := heldAction?_list hx
  rw [List.length_append, List.length_cons] at hlength
  by_cases hthree : before.length = 3
  · cases before with
    | nil => cases hthree
    | cons first rest =>
      obtain ⟨s, hs⟩ := htexts first (.head _)
      apply hfourth hthree
      rw [htext (.head _) hs]
      exact ⟨s, rfl⟩
  · have hmem : d ∈ (before ++ d :: after).take 3 := by
      obtain ⟨k, hk⟩ : ∃ k, 3 - before.length = k + 1 := ⟨2 - before.length, by omega⟩
      rw [List.take_append, hk]
      exact List.mem_append_right _ (.head _)
    obtain ⟨s, hs⟩ := htexts d hmem
    have heq := htext (List.mem_of_mem_take hmem) hs
    subst heq
    rcases hd with ⟨es, hes⟩ | ⟨ds, hds⟩
    · cases hes
    · cases hds

/-! ### Single actions -/

theorem InAction.heldAction?_eq {R : Document → Document → Prop} {d d' : Document}
    (h : InAction R d d') (hd : d.Held) (hd' : d'.Held)
    (hR : ∀ k v v', v.Held → v'.Held → R v v' → heldActions? k v' = heldActions? k v) :
    heldAction? n d' = heldAction? n d := by
  obtain ⟨s, m, m', hm, hm', before, name, after, a, a', ha, ha', t, v, v', hv, hv', hvv'⟩ := h
  have hset : m.Held := hd.of_fill hm
  have hset' : m'.Held := hd'.of_fill hm'
  rw [hset.value_eq] at ha
  rw [hset'.value_eq] at ha'
  subst ha ha'
  have hassertion : a.Held := hset.of_mem_table (List.mem_append_right before (.head after))
  have hassertion' : a'.Held := hset'.of_mem_table (List.mem_append_right before (.head after))
  cases n with
  | zero =>
    refine (Action.ofDocument?_unmoved hm hm' ?_).same not_false
    exact .none
  | succ k =>
    have heq : heldActions? k v' = heldActions? k v :=
      hR k v v' (hassertion.of_fill hv) (hassertion'.of_fill hv') hvv'
    refine (Action.ofDocument?_unmoved hm hm' ?_).same not_false
    refine Document.named?_unmoved rfl rfl ?_
    refine Assertion.ofDocument?_unmoved hv hv' ?_
    exact .kept heq

theorem InAction.isRecord {R : Document → Document → Prop} {d d' : Document}
    (h : InAction R d d') : d.IsRecord ∧ d'.IsRecord := by
  obtain ⟨s, m, m', hm, hm', -⟩ := h
  cases s with
  | table before after => exact ⟨Or.inl ⟨_, hm⟩, Or.inl ⟨_, hm'⟩⟩
  | list before after position => exact ⟨Or.inr ⟨_, hm⟩, Or.inr ⟨_, hm'⟩⟩

/-- An action that is written as a list is not a list of actions. -/
theorem InAction.heldActions?_alone {R : Document → Document → Prop} {d d' : Document}
    (h : InAction R d d') (hd : d.Held) (hd' : d'.Held)
    (hfirst : ∀ first rest, d.value = .list (first :: rest) → ¬ first.IsRecord) :
    heldActions? n d = (heldAction? n d).map ([·]) ∧
      heldActions? n d' = (heldAction? n d').map ([·]) := by
  obtain ⟨s, m, m', hm, hm', -⟩ := h
  rw [hd.value_eq] at hm hfirst
  rw [hd'.value_eq] at hm'
  subst hm hm'
  cases s with
  | table before after =>
    exact ⟨heldActions?_table hd ⟨_, rfl⟩, heldActions?_table hd' ⟨_, rfl⟩⟩
  | list before after position =>
    cases before with
    | nil => exact absurd position (by decide)
    | cons first before =>
      have hnone : heldAction? n first = none := by
        rw [Option.eq_none_iff_forall_ne_some]
        intro x hx
        exact hfirst first _ rfl (heldAction?_isRecord hx)
      have halone {after : List Document} :
          heldActions? n (.list (first :: after)) =
            (heldAction? n (.list (first :: after))).map ([·]) := by
        rw [heldActions?_eq]
        refine Document.oneOrMany?_alone fun ds hds => ?_
        obtain rfl := Document.list.inj hds
        rw [List.mapM_cons, hnone]
        rfl
      exact ⟨halone, halone⟩

/-- In held actions, a list of one table is read as the table is, as deep as it may lie. -/
theorem Unwrapped.heldActions?_eq {k : Nat} {d d' : Document} (h : Unwrapped k d d')
    (hd : d.Held) (hd' : d'.Held) (n : Nat) : heldActions? n d' = heldActions? n d := by
  induction k generalizing d d' n with
  | zero =>
    obtain ⟨hlist, htable⟩ : Document.Lone d d' := h
    rw [hd.value_eq] at hlist
    subst hlist
    rw [heldActions?_table hd' htable, heldActions?_list (by simpa using ⟨hd', htable⟩)]
    rw [List.mapM_cons, List.mapM_nil]
    cases heldAction? n d' <;> rfl
  | succ k ih =>
    have hread {x x' : Document} (hx : InAction (Unwrapped k) x x') (hheld : x.Held)
        (hheld' : x'.Held) : heldAction? n x' = heldAction? n x :=
      hx.heldAction?_eq hheld hheld' fun n v v' hv hv' hvv' => ih hvv' hv hv' n
    cases h with
    | alone hfirst hx =>
      obtain ⟨halone, halone'⟩ := hx.heldActions?_alone hd hd' hfirst
      rw [halone, halone', hread hx hd hd']
    | @item before after x x' hitem hitem' hfourth hx =>
      rw [hd.value_eq] at hitem
      rw [hd'.value_eq] at hitem'
      subst hitem hitem'
      have hmem : x ∈ before ++ x :: after := List.mem_append_right before (.head after)
      have hmem' : x' ∈ before ++ x' :: after := List.mem_append_right before (.head after)
      have heq := hread hx (hd.of_mem_list hmem) (hd'.of_mem_list hmem')
      have hlist : heldActions? n (.list (before ++ x :: after)) =
          (before ++ x :: after).mapM (heldAction? n) := by
        rw [Upkeep.heldActions?_eq]
        exact Document.oneOrMany?_list fun _ => heldAction?_middle hd hx.isRecord.1 hfourth
      have hlist' : heldActions? n (.list (before ++ x' :: after)) =
          (before ++ x' :: after).mapM (heldAction? n) := by
        rw [Upkeep.heldActions?_eq]
        exact Document.oneOrMany?_list fun _ => heldAction?_middle hd' hx.isRecord.2 hfourth
      rw [hlist, hlist', mapM_middle, mapM_middle, heq]

end Actions

variable {dialect : Dialect} {d d' : Document}

theorem Unwrapped.actions?_eq {k : Nat} (h : Unwrapped k d d') (hreach : dialect.Reaches d) :
    actions? dialect d' = actions? dialect d := by
  have hdepth : d'.depth ≤ d.depth := h.depth_le
  rw [Upkeep.actions?_eq hreach (Nat.le_refl _),
    Upkeep.actions?_eq (hreach.of_depth_le hdepth) hdepth]
  refine rel_bind h.settled fun w w' hw hw' hww' => ?_
  exact hww'.heldActions?_eq ⟨d, hw⟩ ⟨d', hw'⟩ d.depth

theorem Document.held_tables {ds ws : List Document} (hws : ds.mapM Document.settled = some ws)
    (htables : ∀ d ∈ ds, d.IsTable) : ∀ w ∈ ws, w.Held ∧ w.IsTable := by
  intro w hw
  obtain ⟨d, hd, hsettled⟩ := mem_mapM hws hw
  exact ⟨⟨d, hsettled⟩, (isTable_settled hsettled).mpr (htables d hd)⟩

/-- A list of tables is read table by table. -/
theorem actions?_list {ds : List Document} (hd : d.value = .list ds)
    (hreach : dialect.Reaches d) (htables : ∀ x ∈ ds, x.IsTable) {xs : List Action} :
    actions? dialect d = some xs ↔
      List.Forall₂ (fun d x => actions? dialect d = some [x]) ds xs := by
  have hheld : heldActions? d.depth = Document.oneOrMany? (heldAction? d.depth) :=
    funext (heldActions?_eq d.depth)
  have hone : ∀ x ∈ ds, actions? dialect x =
      (x.settled.bind (heldAction? d.depth)).map ([·]) := by
    intro x hx
    have hlt := Document.depth_lt_of_mem_list hx
    rw [← hd, Document.depth_value] at hlt
    have hle : x.depth ≤ d.depth := Nat.le_of_lt hlt
    rw [actions?_eq (hreach.of_depth_le hle) hle, hheld]
    exact Document.oneOrMany?_settled_table (htables x hx)
  have hall : actions? dialect d = ds.mapM fun x => x.settled.bind (heldAction? d.depth) := by
    rw [actions?_eq hreach (Nat.le_refl _), hheld]
    refine Document.oneOrMany?_settled_list hd fun ws hws hnone => ?_
    apply heldAction?_tables (Document.held_tables hws htables)
    rintro rfl
    cases hnone
  rw [hall]
  exact Document.mapM_eq_some_iff_singles hone

/-! ### Credentials -/

def strayCredential : Document := .table [("password", .null)]

/-- A word with nothing beside it is an unknown name to a credential, unless it is its password. -/
theorem Credential.ofDocument?_word {word : String} (payload : Document)
    (hword : word ≠ "kind" ∧ word ≠ "password" ∧ word ≠ "key") :
    ofDocument? .held (.table [(word, payload)]) = some {} := by
  obtain ⟨hkind, hpassword, hkey⟩ := hword
  have hentries : (Document.table [(word, payload)]).entries? .held ["kind", "password", "key"] =
      some [(word, payload)] := by
    simp [Document.entries?, hkind, hpassword, hkey]
  have hfield {α : Type} {name : String} (hname : word ≠ name) (absent : Option α)
      (read : Document → Option α) : Document.field [(word, payload)] name absent read = absent :=
    Document.field_other hname.symm [] [] payload absent read
  rw [ofDocument?, hentries]
  simp only [Option.bind_eq_bind, Option.bind_some, hfield hkind, hfield hpassword, hfield hkey]
  rfl

theorem Document.Held.eq_null {d : Document} (h : d.Held) (hnull : Dialect.isNull d = true) :
    d = .null := by
  have hvalue := h.value_eq
  cases d with
  | null => rfl
  | expression written d => exact absurd hvalue (Document.value_ne_expression _ _ _)
  | _ => cases hnull

theorem Document.word?_table {α : Type} {dialect : Dialect} {read : String → Option α}
    {es : List (String × Document)} {x : α}
    (h : (Document.table es).word? dialect read = some x) :
    ∃ word payload, es = [(word, payload)] ∧ dialect.isEmptyPayload payload = true ∧
      read word = some x := by
  rcases es with _ | ⟨⟨word, payload⟩, _ | ⟨e, es⟩⟩
  · cases h
  · obtain ⟨hnull, hread⟩ := Option.ite_none_right_eq_some.mp h
    exact ⟨word, payload, rfl, hnull, hread⟩
  · cases h

/-- A list of tables passes for one credential only if it is the list of a stray one. -/
theorem Credential.ofDocument?_tables {ds : List Document}
    (htables : ∀ d ∈ ds, d.Held ∧ d.IsTable) (hnone : ds.mapM (ofDocument? .held) = none)
    {c : Credential} (h : ofDocument? .held (.list ds) = some c) : ds = [strayCredential] := by
  have htable {d : Document} (hd : d ∈ ds) : ∃ es, d = .table es := by
    obtain ⟨hheld, es, hes⟩ := htables d hd
    rw [hheld.value_eq] at hes
    exact ⟨es, hes⟩
  simp only [ofDocument?, Option.bind_eq_bind, Option.bind_eq_some_iff] at h
  obtain ⟨entries, hentries, kind, hkind, password, hpassword, -⟩ := h
  rw [Document.entries?] at hentries
  split at hentries
  · obtain rfl := Option.some.inj hentries
    cases ds with
    | nil => cases hnone
    | cons d rest =>
      obtain ⟨es, rfl⟩ := htable (.head rest)
      cases rest with
      | cons e rest =>
        -- In the second place there would have to be the text of a password.
        obtain ⟨es', rfl⟩ := htable (.tail _ (.head rest))
        cases hpassword
      | nil =>
        obtain ⟨k, hk, -⟩ := Option.map_eq_some_iff.mp hkind
        obtain ⟨word, payload, rfl, hnull, hword⟩ := Document.word?_table hk
        have hheld := (htables _ (.head [])).1.of_mem_table (.head [])
        have hpayload : payload = .null := Document.Held.eq_null hheld hnull
        by_cases hstray : word = "password"
        · rw [hstray, hpayload]
          rfl
        · have hother : word ≠ "kind" ∧ word ≠ "password" ∧ word ≠ "key" := by
            refine ⟨?_, hstray, ?_⟩
            · rintro rfl
              cases hword
            · rintro rfl
              cases hword
          rw [List.mapM_cons, ofDocument?_word payload hother] at hnone
          cases hnone
  · cases hentries

/-- The password null and no more: no credential, but in a list of it alone it passes for the kind
of one. -/
def Document.IsStray (d : Document) : Prop := d.settled = some strayCredential

/-- A list of tables is read table by table, if it is not the list of a stray one. -/
theorem credentials?_list {ds : List Document} (hd : d.value = .list ds)
    (hreach : dialect.Reaches d) (htables : ∀ x ∈ ds, x.IsTable)
    (hstray : ∀ x, ds = [x] → ¬ x.IsStray) :
    credentials? dialect d = ds.mapM fun x => x.settled.bind (Credential.ofDocument? .held) := by
  rw [credentials?_eq hreach]
  refine Document.oneOrMany?_settled_list hd fun ws hws hnone => ?_
  rw [Option.eq_none_iff_forall_ne_some]
  intro c hc
  have hws' := Credential.ofDocument?_tables (Document.held_tables hws htables) hnone hc
  subst hws'
  cases mapM_eq_some_iff_forall₂.mp hws with
  | cons hsettled hrest =>
    obtain rfl := List.forall₂_nil_right_iff.mp hrest
    exact hstray _ rfl hsettled

theorem credentials?_table (hreach : dialect.Reaches d) (h : d.IsTable) :
    credentials? dialect d = (d.settled.bind (Credential.ofDocument? .held)).map ([·]) := by
  rw [credentials?_eq hreach]
  exact Document.oneOrMany?_settled_table h

theorem Document.Lone.credentials?_eq (h : Lone d d') (hreach : dialect.Reaches d)
    (hstray : ¬ d'.IsStray) : credentials? dialect d' = credentials? dialect d := by
  rw [credentials?_table (hreach.of_depth_le h.depth_le) h.2,
    credentials?_list h.1 hreach (by simpa using h.2) (by simpa using hstray), List.mapM_cons,
    List.mapM_nil]
  cases d'.settled.bind (Credential.ofDocument? .held) <;> rfl

theorem Document.IsStray.credentials?_eq_none (h : d.IsStray) : credentials? dialect d = none := by
  by_cases hreach : dialect.Reaches d
  · rw [Upkeep.credentials?_eq hreach, h]
    rfl
  · rw [credentials?, Dialect.hold?_of_not_reaches hreach]
    rfl

theorem Document.Lone.credentials?_stray (h : Lone d d') (hreach : dialect.Reaches d)
    (hstray : d'.IsStray) : credentials? dialect d = some [.ofPassword ""] := by
  have hsettled : d.settled = some (.list [strayCredential]) := by
    rw [settled_list h.1, List.mapM_cons, hstray]
    rfl
  rw [Upkeep.credentials?_eq hreach, hsettled]
  rfl

/-! ### Groups and fleets -/

theorem Format.reaches_nil (format : Format) (h : d.value = .list []) :
    format.dialect.Reaches d := by
  intro limit hlimit
  rw [← Document.depth_value, h]
  cases format with
  | json =>
    obtain rfl := Option.some.inj hlimit
    decide
  | toml | hcl => cases hlimit

/-- How the actions of assertions and the credentials of machines are read: as lists of tables,
table by table, and one table like the list of it alone. -/
structure Format.ReadsSingles (format : Format) : Prop where
  /-- A list of one table, as deep in actions as it may lie, counts as the table. -/
  group : ∀ n d d', InGroup (fun v v' => format.dialect.Reaches v ∧ Unwrapped n v v') d d' →
    Group.ofDocument? format.dialect d' = Group.ofDocument? format.dialect d
  fleet : ∀ d d', InFleet (fun v v' => format.dialect.Reaches v ∧ v.Lone v' ∧ ¬ v'.IsStray) d d' →
    Fleet.ofDocument? format.dialect d' = Fleet.ofDocument? format.dialect d
  /-- A stray table by itself is refused, and the list of it is a password without a word. -/
  stray : ∀ d d', InFleet (fun v _ => v.IsStray) d d' → Fleet.ofDocument? format.dialect d = none
  strayList : ∀ v v', v.Lone v' → format.dialect.Reaches v → v'.IsStray →
    credentials? format.dialect v = some [.ofPassword ""]
  /-- What is too deep to be held is refused with all that is around it. -/
  deepGroup : ∀ d d', InGroup (fun v _ => ¬ format.dialect.Reaches v) d d' →
    Group.ofDocument? format.dialect d = none
  deepFleet : ∀ d d', InFleet (fun v _ => ¬ format.dialect.Reaches v) d d' →
    Fleet.ofDocument? format.dialect d = none
  /-- What is read in the field is what the assertion has, and likewise the machine. -/
  assertion : ∀ (dialect : Dialect) (actions? : Document → Option (List Action))
    (s : Slot Assertion.fields "or") d v a, d.value = s.fill v →
      Assertion.ofDocument? dialect actions? d = some a → actions? v = some a.actions
  machine : ∀ (s : Slot Machine.fields "auth") d v m, d.value = s.fill v →
    Machine.ofDocument? format.dialect d = some m → credentials? format.dialect v = some m.auth
  noActions : ∀ d, d.value = .list [] → actions? format.dialect d = some []
  noHeldActions : ∀ n, heldActions? n (.list []) = some []
  noCredentials : ∀ d, d.value = .list [] → credentials? format.dialect d = some []
  actions : ∀ d ds xs, d.value = .list ds → (∀ x ∈ ds, x.IsTable) → format.dialect.Reaches d →
    (actions? format.dialect d = some xs ↔
      List.Forall₂ (fun d x => actions? format.dialect d = some [x]) ds xs)
  heldActions : ∀ n ds xs, (∀ d ∈ ds, d.Held ∧ d.IsTable) →
    (heldActions? n (.list ds) = some xs ↔
      List.Forall₂ (fun d x => heldActions? n d = some [x]) ds xs)
  credentials : ∀ d ds cs, d.value = .list ds → (∀ x ∈ ds, x.IsTable) →
    format.dialect.Reaches d → (∀ x, ds = [x] → ¬ x.IsStray) →
    (credentials? format.dialect d = some cs ↔
      List.Forall₂ (fun d c => credentials? format.dialect d = some [c]) ds cs)

theorem Format.readsSingles (format : Format) : format.ReadsSingles where
  group n d d' h := by
    refine (h.unmoved fun v v' hv => ?_).same not_false
    exact .kept (hv.2.actions?_eq hv.1)
  fleet d d' h := by
    refine (h.unmoved fun v v' hv => ?_).same not_false
    exact .kept (hv.2.1.credentials?_eq hv.1 hv.2.2)
  stray d d' h := by
    refine (h.unmoved fun v v' hv => ?_).nothing trivial
    exact .refused hv.credentials?_eq_none
  strayList v v' h hreach hstray := h.credentials?_stray hreach hstray
  deepGroup d d' h := by
    refine (h.unmoved fun v v' hv => ?_).nothing trivial
    apply Unmoved.refused
    rw [actions?, Dialect.hold?_of_not_reaches hv]
    rfl
  deepFleet d d' h := by
    refine (h.unmoved fun v v' hv => ?_).nothing trivial
    apply Unmoved.refused
    rw [credentials?, Dialect.hold?_of_not_reaches hv]
    rfl
  assertion dialect actions? s d v a hd h := Assertion.ofDocument?_or hd h
  machine s d v m hd h := Machine.ofDocument?_auth hd h
  noActions d hd := by
    rw [actions?_list hd (format.reaches_nil hd) (by simp)]
    exact .nil
  noHeldActions n := by
    rw [heldActions?_list (by simp)]
    rfl
  noCredentials d hd := by
    rw [credentials?_list hd (format.reaches_nil hd) (by simp) (by simp)]
    rfl
  actions d ds xs hd htables hreach := actions?_list hd hreach htables
  heldActions n ds xs htables := by
    rw [heldActions?_list htables]
    apply Document.mapM_eq_some_iff_singles
    intro d hd
    exact heldActions?_table (htables d hd).1 (htables d hd).2
  credentials d ds cs hd htables hreach hstray := by
    rw [credentials?_list hd hreach htables hstray]
    apply Document.mapM_eq_some_iff_singles
    intro x hx
    have hlt := Document.depth_lt_of_mem_list hx
    rw [← hd, Document.depth_value] at hlt
    exact credentials?_table (hreach.of_depth_le (Nat.le_of_lt hlt)) (htables x hx)

def strayFleet (auth : Document) : Document :=
  .table [("name", .text "f"), ("machine", .table [("m", .table [("auth", auth)])])]

theorem Fleet.ofDocument?_strayFleet :
    ofDocument? .json (strayFleet (.list [strayCredential])) =
        some ⟨"f", [("m", { auth := [.ofPassword ""] })]⟩ ∧
      ofDocument? .json (strayFleet strayCredential) = none := by
  constructor
  · rfl
  · rfl

end Upkeep
