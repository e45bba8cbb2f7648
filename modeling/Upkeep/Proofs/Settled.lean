import Upkeep.Proofs.Fields

/-!
Values that are held before they are read. What is held has no expressions in it and is no deeper
than what it was, and its actions are looked for as deep as it is: deeper there is nothing to find.
-/

set_option autoImplicit false

namespace Upkeep

namespace Document

/-! ### Settled documents -/

theorem depth_value (d : Document) : d.value.depth = d.depth :=
  apply_value (fun _ _ => rfl) d

theorem settled_value (d : Document) : d.value.settled = d.settled :=
  apply_value (fun _ _ => rfl) d

def settledEntry (e : String × Document) : Option (String × Document) := e.2.settled.map (e.1, ·)

theorem settledItems_eq_mapM (ds : List Document) : settled.settledItems ds = ds.mapM settled := by
  induction ds with
  | nil => rfl
  | cons d ds ih =>
    rw [settled.settledItems, ih, List.mapM_cons]
    cases d.settled with
    | none => rfl
    | some d' => cases ds.mapM settled <;> rfl

theorem settledEntries_eq_mapM (es : List (String × Document)) :
    settled.settledEntries es = es.mapM settledEntry := by
  induction es with
  | nil => rfl
  | cons e es ih =>
    rw [settled.settledEntries, ih, List.mapM_cons, settledEntry]
    cases e.2.settled with
    | none => rfl
    | some d' => cases es.mapM settledEntry <;> rfl

variable {d d' w : Document}

theorem settled_list {ds : List Document} (h : d.value = .list ds) :
    d.settled = (ds.mapM settled).map .list := by
  rw [← settled_value, h, settled, settledItems_eq_mapM]

theorem settled_table {es : List (String × Document)} (h : d.value = .table es) :
    d.settled = (es.mapM settledEntry).map .table := by
  rw [← settled_value, h, settled, settledEntries_eq_mapM]

/-- What a document is settled as: of the same shape, part by part. -/
inductive Settles (d : Document) : Document → Prop where
  | list {ds ws : List Document} : d.value = .list ds → ds.mapM settled = some ws →
      Settles d (.list ws)
  | table {es ws : List (String × Document)} : d.value = .table es →
      es.mapM settledEntry = some ws → Settles d (.table ws)
  | scalar : (∀ ds, d.value ≠ .list ds) → (∀ es, d.value ≠ .table es) → Settles d d.value

theorem settles_of_settled (h : d.settled = some w) : Settles d w := by
  cases hvalue : d.value with
  | list ds =>
    rw [settled_list hvalue] at h
    obtain ⟨ws, hws, rfl⟩ := Option.map_eq_some_iff.mp h
    exact .list hvalue hws
  | table es =>
    rw [settled_table hvalue] at h
    obtain ⟨ws, hws, rfl⟩ := Option.map_eq_some_iff.mp h
    exact .table hvalue hws
  | expression written e => exact absurd hvalue (d.value_ne_expression written e)
  | unreadable =>
    rw [← settled_value, hvalue] at h
    cases h
  | int i =>
    rw [← settled_value, hvalue, settled] at h
    split at h
    · obtain rfl := Option.some.inj h
      rw [← hvalue]
      exact .scalar (by simp [hvalue]) (by simp [hvalue])
    · cases h
  | null | bool _ | real _ | text _ =>
    rw [← settled_value, hvalue] at h
    obtain rfl := Option.some.inj h
    rw [← hvalue]
    exact .scalar (by simp [hvalue]) (by simp [hvalue])

/-- Expressions are gone. -/
theorem value_settled (h : d.settled = some w) : w.value = w := by
  cases settles_of_settled h with
  | list _ _ => rfl
  | table _ _ => rfl
  | scalar _ _ =>
    cases hvalue : d.value with
    | expression written e => exact absurd hvalue (d.value_ne_expression written e)
    | _ => rfl

/-! ### Depths -/

theorem depthItems_append (ds ds' : List Document) : depth.depthItems (ds ++ ds') =
    max (depth.depthItems ds) (depth.depthItems ds') := by
  induction ds with
  | nil => exact (Nat.zero_max _).symm
  | cons d ds ih => rw [List.cons_append, depth.depthItems, ih, depth.depthItems, Nat.max_assoc]

theorem depthEntries_append (es es' : List (String × Document)) : depth.depthEntries (es ++ es') =
    max (depth.depthEntries es) (depth.depthEntries es') := by
  induction es with
  | nil => exact (Nat.zero_max _).symm
  | cons e es ih =>
    rw [List.cons_append, depth.depthEntries, ih, depth.depthEntries, Nat.max_assoc]

theorem depth_list_middle {before after : List Document} {v v' : Document}
    (hd : d.value = .list (before ++ v :: after)) (hd' : d'.value = .list (before ++ v' :: after))
    (h : v'.depth ≤ v.depth) : d'.depth ≤ d.depth := by
  rw [← depth_value, hd', ← depth_value d, hd]
  simp only [depth, depthItems_append, depth.depthItems]
  omega

theorem depth_table_middle {before after : List (String × Document)} {name : String}
    {v v' : Document} (hd : d.value = .table (before ++ (name, v) :: after))
    (hd' : d'.value = .table (before ++ (name, v') :: after)) (h : v'.depth ≤ v.depth) :
    d'.depth ≤ d.depth := by
  rw [← depth_value, hd', ← depth_value d, hd]
  simp only [depth, depthEntries_append, depth.depthEntries]
  omega

theorem settled_depth_le {n : Nat} (h : d.settled = some w) (hd : d.depth ≤ n) : w.depth ≤ n := by
  induction n generalizing d w with
  | zero =>
    rw [← depth_value] at hd
    cases settles_of_settled h with
    | list hvalue _ | table hvalue _ =>
      rw [hvalue, depth] at hd
      omega
    | scalar _ _ => exact hd
  | succ n ih =>
    rw [← depth_value] at hd
    cases settles_of_settled h with
    | list hvalue hws =>
      refine depth_list_le fun w hw => ?_
      obtain ⟨d', hmem, hd'⟩ := mem_mapM hws hw
      have hlt := depth_lt_of_mem_list hmem
      rw [hvalue] at hd
      exact ih hd' (by omega)
    | table hvalue hws =>
      refine depth_table_le fun e he => ?_
      obtain ⟨⟨name, d'⟩, hmem, hentry⟩ := mem_mapM hws he
      obtain ⟨w', hw', rfl⟩ := Option.map_eq_some_iff.mp hentry
      have hsettled : d'.settled = some w' := hw'
      have hlt := depth_lt_of_mem_table hmem
      rw [hvalue] at hd
      exact ih hsettled (by omega)
    | scalar _ _ => exact hd

/-! ### What readings depend on -/

section Congruence

variable {α : Type} {dialect : Dialect} {fields : List String}

theorem entries?_depth_lt {entries : List (String × Document)}
    (h : d.entries? dialect fields = some entries) {e : String × Document} (he : e ∈ entries) :
    e.2.depth < d.depth := by
  rw [← depth_value d]
  rcases entries?_cases h with hvalue | ⟨items, hvalue, rfl⟩
  · rw [hvalue]
    exact depth_lt_of_mem_table he
  · rw [hvalue]
    exact depth_lt_of_mem_list (List.of_mem_zip he).2

theorem field_congr {entries : List (String × Document)} {name : String} {absent : Option α}
    {read read' : Document → Option α} (h : ∀ e ∈ entries, read e.2 = read' e.2) :
    field entries name absent read = field entries name absent read' := by
  unfold field
  split
  · rename_i v hv
    obtain ⟨before, after, rfl, -⟩ := List.lookup_eq_some_iff.mp hv
    exact h (name, v) (List.mem_append_right before (.head after))
  · rfl

theorem named?_congr {item? item?' : Document → Option α}
    (h : ∀ x : Document, x.depth < d.depth → item? x = item?' x) :
    d.named? item? = d.named? item?' := by
  rw [← depth_value] at h
  unfold named?
  split
  · rename_i es hvalue
    rw [hvalue] at h
    refine congrArg (Option.map Named.ofList) (mapM_congr fun e he => ?_)
    rw [h e.2 (depth_lt_of_mem_table he)]
  · rfl

theorem oneOrMany?_congr {item? item?' : Document → Option α}
    (h : ∀ x : Document, x.depth ≤ d.depth → item? x = item?' x) :
    d.oneOrMany? item? = d.oneOrMany? item?' := by
  unfold oneOrMany?
  split
  · rename_i ds
    have hitems : ds.mapM item? = ds.mapM item?' := by
      apply mapM_congr
      intro x hx
      exact h x (Nat.le_of_lt (depth_lt_of_mem_list hx))
    rw [hitems, h _ (Nat.le_refl _)]
  · rw [h _ (Nat.le_refl _)]

end Congruence

end Document

section Readers

variable {dialect : Dialect} {d : Document}

theorem Action.ofDocument?_congr {nested? nested?' : Document → Option (Named Assertion)}
    (h : ∀ x : Document, x.depth < d.depth → nested? x = nested?' x) :
    Action.ofDocument? dialect nested? d = Action.ofDocument? dialect nested?' d := by
  unfold Action.ofDocument?
  cases hentries : d.entries? dialect ["action", "source_path", "destination_path", "assert"] with
  | none => rfl
  | some entries =>
    have hfield : Document.field entries "assert" (some []) nested? =
        Document.field entries "assert" (some []) nested?' :=
      Document.field_congr fun e he => h e.2 (Document.entries?_depth_lt hentries he)
    simp only [Option.bind_eq_bind, Option.bind_some, hfield]

theorem Assertion.ofDocument?_congr {actions? actions?' : Document → Option (List Action)}
    (h : ∀ x : Document, x.depth < d.depth → actions? x = actions?' x) :
    Assertion.ofDocument? dialect actions? d = Assertion.ofDocument? dialect actions?' d := by
  unfold Assertion.ofDocument?
  cases hentries : d.entries? dialect
      ["kind", "order", "file_path", "hash", "base_path", "regex", "or"] with
  | none => rfl
  | some entries =>
    have hfield : Document.field entries "or" (some []) actions? =
        Document.field entries "or" (some []) actions?' :=
      Document.field_congr fun e he => h e.2 (Document.entries?_depth_lt hentries he)
    simp only [Option.bind_eq_bind, Option.bind_some, hfield]

end Readers

/-! ### Held actions -/

/-- The reader of one held action. -/
def heldAction? (n : Nat) : Document → Option Action :=
  Action.ofDocument? .held fun d =>
    match n with
    | 0 => none
    | n + 1 => d.named? (Assertion.ofDocument? .held (heldActions? n))

theorem heldActions?_eq (n : Nat) (d : Document) :
    heldActions? n d = d.oneOrMany? (heldAction? n) := by
  cases n <;> rfl

/-- Deeper than a document is, nothing more is found in it. -/
theorem heldActions?_succ {n : Nat} {d : Document} (h : d.depth ≤ n) :
    heldActions? (n + 1) d = heldActions? n d := by
  induction n generalizing d with
  | zero =>
    rw [heldActions?_eq, heldActions?_eq]
    refine Document.oneOrMany?_congr fun x hx => ?_
    refine Action.ofDocument?_congr fun y hy => ?_
    omega
  | succ n ih =>
    rw [heldActions?_eq, heldActions?_eq]
    refine Document.oneOrMany?_congr fun x hx => ?_
    refine Action.ofDocument?_congr fun y hy => ?_
    refine Document.named?_congr fun z hz => ?_
    refine Assertion.ofDocument?_congr fun u hu => ?_
    exact ih (by omega)

theorem heldActions?_of_le {n : Nat} {d : Document} (h : d.depth ≤ n) :
    heldActions? n d = heldActions? d.depth d := by
  induction n, h using Nat.le_induction with
  | base => rfl
  | succ n h ih => rw [heldActions?_succ h, ih]

namespace Dialect

/-- The value is no deeper than values can be that are held. -/
def Reaches (dialect : Dialect) (d : Document) : Prop :=
  ∀ limit, dialect.heldDepth = some limit → d.depth ≤ limit

variable {dialect : Dialect} {d : Document}

theorem Reaches.of_depth_le {d' : Document} (h : dialect.Reaches d) (hd' : d'.depth ≤ d.depth) :
    dialect.Reaches d' := fun limit hlimit => Nat.le_trans hd' (h limit hlimit)

theorem Reaches.hold?_eq (h : dialect.Reaches d) : d.hold? dialect = d.settled := by
  unfold Document.hold?
  split
  · rename_i limit hlimit
    rw [if_pos (h limit hlimit)]
  · rfl

theorem hold?_of_not_reaches (h : ¬ dialect.Reaches d) : d.hold? dialect = none := by
  unfold Document.hold?
  split
  · rename_i limit hlimit
    rw [if_neg]
    intro hle
    apply h
    intro limit' hlimit'
    rw [hlimit] at hlimit'
    cases hlimit'
    exact hle
  · rename_i hnone
    refine absurd (fun limit hlimit => ?_) h
    rw [hnone] at hlimit
    cases hlimit

end Dialect

theorem actions?_eq {dialect : Dialect} {d : Document} (h : dialect.Reaches d) {n : Nat}
    (hn : d.depth ≤ n) : actions? dialect d = d.settled.bind (heldActions? n) := by
  unfold actions?
  rw [h.hold?_eq]
  cases hsettled : d.settled with
  | none => rfl
  | some w => exact (heldActions?_of_le (Document.settled_depth_le hsettled hn)).symm

theorem credentials?_eq {dialect : Dialect} {d : Document} (h : dialect.Reaches d) :
    credentials? dialect d =
      d.settled.bind fun w => w.oneOrMany? (Credential.ofDocument? .held) := by
  unfold credentials?
  rw [h.hold?_eq]
  rfl

end Upkeep
