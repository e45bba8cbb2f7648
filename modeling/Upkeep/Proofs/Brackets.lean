import Upkeep.Proofs.Order
import Upkeep.Proofs.Recording

/-!
The events of a set of assertions are brackets within brackets. `Bracketed` is their grammar, which
knows nothing of targets. That every end closes what was begun last, that a level goes through a set
in its order, and that after a fault there is nothing but ends, are shown of the grammar.
-/

set_option autoImplicit false

namespace Upkeep

variable {σ : Type}

/-! ### The grammar -/

/-- Which events a task may report that ends with this result. -/
inductive Bracketed : Task → List Event → Except Fault Unit → Prop where
  | done : Bracketed (.inTurn []) [] (.ok ())
  | next {task : Task} {tasks : List Task} {first rest : List Event} {r : Except Fault Unit} :
      Bracketed task first (.ok ()) → Bracketed (.inTurn tasks) rest r →
      Bracketed (.inTurn (task :: tasks)) (first ++ rest) r
  | stop {task : Task} {tasks : List Task} {es : List Event} {f : Fault} :
      Bracketed task es (.error f) → Bracketed (.inTurn (task :: tasks)) es (.error f)
  | unanswered {group name : String} {a : Assertion} {f : Fault} :
      Bracketed (.assertion group name a)
        [.started group name, .ended group name ⟨.error, some f⟩] (.error f)
  | holds {group name : String} {a : Assertion} :
      Bracketed (.assertion group name a)
        [.started group name, .ended group name ⟨.noop, none⟩] (.ok ())
  | remedied {group name : String} {a : Assertion} {within : List Event}
      {r : Except Fault Unit} :
      Bracketed (.remedy group name a) within r →
      Bracketed (.assertion group name a)
        (.started group name :: within ++ [.ended group name (.ofRemedy r)]) r
  | silent {parent : String} {x : Action} {r : Except Fault Unit} :
      (∀ assertions, x ≠ .assert assertions) → Bracketed (.action parent x) [] r
  | nested {parent : String} {assertions : Named Assertion} {within : List Event}
      {r : Except Fault Unit} :
      Bracketed (.set parent assertions) within r →
      Bracketed (.action parent (.assert assertions)) within r
  | refused {parent : String} {assertions : Named Assertion} {f : Fault} :
      Bracketed (.action parent (.assert assertions)) [] (.error f)

theorem Recorded.bracketed {disk : σ → Disk} {t : Target σ} {d : Nat} {task : Task} {s s' : σ}
    {record : Record} {r : Except Fault Unit} (h : Recorded disk t d task s record r s') :
    Bracketed task record.events r := by
  induction h with
  | done => exact .done
  | next _ _ ihFirst ihRest =>
    rw [Record.events_append]
    exact .next ihFirst ihRest
  | stop _ ih => exact .stop ih
  | unanswered _ => exact .unanswered
  | holds _ => exact .holds
  | remedied _ _ ih => exact .remedied ih
  | unset | fail | copied | notCopied | unrecognised => exact .silent (by simp)
  | nested _ _ ih => simpa [Record.events] using Bracketed.nested ih
  | tooDeep _ => exact .refused

/-! ### What is open -/

/-- The assertions that are open after an event, innermost first. There is no answer if the event
ends any but the innermost. -/
def Event.openAfter (opened : List (String × String)) : Event → Option (List (String × String))
  | .assertion group name none _ => some ((group, name) :: opened)
  | .assertion group name (some _) _ =>
    match opened with
    | [] => none
    | innermost :: enclosing => if innermost = (group, name) then some enclosing else none
  | .machine .. => some opened

@[simp] theorem Event.openAfter_started (opened : List (String × String)) (group name : String) :
    (Event.started group name).openAfter opened = some ((group, name) :: opened) := rfl

@[simp] theorem Event.openAfter_ended (opened : List (String × String)) (group name : String)
    (e : Evaluation) :
    (Event.ended group name e).openAfter ((group, name) :: opened) = some opened := by
  simp [Event.openAfter, Event.ended]

def openAfter (opened : List (String × String)) (es : List Event) :
    Option (List (String × String)) :=
  es.foldlM Event.openAfter opened

@[simp] theorem openAfter_nil (opened : List (String × String)) :
    openAfter opened [] = some opened := rfl

@[simp] theorem openAfter_cons (opened : List (String × String)) (e : Event) (es : List Event) :
    openAfter opened (e :: es) = (e.openAfter opened).bind (openAfter · es) := rfl

@[simp] theorem openAfter_append (opened : List (String × String)) (es es' : List Event) :
    openAfter opened (es ++ es') = (openAfter opened es).bind (openAfter · es') := by
  simp only [openAfter, List.foldlM_append]
  rfl

theorem Bracketed.closed {task : Task} {es : List Event} {r : Except Fault Unit}
    (h : Bracketed task es r) (opened : List (String × String)) :
    openAfter opened es = some opened := by
  induction h generalizing opened with
  | done | silent _ | refused => rfl
  | next _ _ ihFirst ihRest => simp [ihFirst, ihRest]
  | stop _ ih | nested _ ih => exact ih opened
  | unanswered | holds => simp
  | remedied _ ih => simp [ih]

/-! ### What is at one level -/

/-- The assertions that are started while no other is open, after events that left `n` open. -/
def outermost : Nat → List Event → List (String × String)
  | _, [] => []
  | n, .assertion group name none _ :: es =>
    (if n = 0 then [(group, name)] else []) ++ outermost (n + 1) es
  | n, .assertion _ _ (some _) _ :: es => outermost (n - 1) es
  | n, .machine .. :: es => outermost n es

theorem Bracketed.outermost_succ {task : Task} {es : List Event} {r : Except Fault Unit}
    (h : Bracketed task es r) (n : Nat) (rest : List Event) :
    outermost (n + 1) (es ++ rest) = outermost (n + 1) rest := by
  induction h generalizing n rest with
  | done | silent _ | refused => rfl
  | next _ _ ihFirst ihRest => simp [ihFirst, ihRest]
  | stop _ ih | nested _ ih => exact ih n rest
  | unanswered | holds => rfl
  | remedied _ ih => simp [Event.started, Event.ended, outermost, ih]

theorem Bracketed.outermost_zero {group name : String} {a : Assertion} {es : List Event}
    {r : Except Fault Unit} (h : Bracketed (.assertion group name a) es r) (rest : List Event) :
    outermost 0 (es ++ rest) = (group, name) :: outermost 0 rest := by
  cases h with
  | unanswered | holds => rfl
  | remedied h => simp [Event.started, Event.ended, outermost, h.outermost_succ]

/-- A level goes through its assertions in turn, and through all of them if there is no fault. -/
theorem Bracketed.level {group : String} {as : List (String × Assertion)} {es : List Event}
    {r : Except Fault Unit}
    (h : Bracketed (.inTurn (as.map fun (name, a) => .assertion group name a)) es r) :
    outermost 0 es <+: as.map (fun x => (group, x.1)) ∧
      (r = .ok () → outermost 0 es = as.map fun x => (group, x.1)) := by
  induction as generalizing es with
  | nil =>
    cases h
    exact ⟨List.prefix_rfl, fun _ => rfl⟩
  | cons first as ih =>
    cases h with
    | next hfirst hrest =>
      obtain ⟨hreached, hall⟩ := ih hrest
      rw [hfirst.outermost_zero, List.map_cons]
      exact ⟨List.cons_prefix_cons.mpr ⟨rfl, hreached⟩, fun hr => by rw [hall hr]⟩
    | stop hfirst =>
      have hstarted := hfirst.outermost_zero []
      rw [List.append_nil] at hstarted
      rw [hstarted, List.map_cons]
      exact ⟨List.cons_prefix_cons.mpr ⟨rfl, List.nil_prefix⟩, fun hr => by cases hr⟩

/-! ### After a fault -/

def Event.fault? : Event → Option Fault
  | .machine _ _ fault => fault
  | .assertion _ _ _ fault => fault

@[simp] theorem Event.fault?_started (group name : String) :
    (Event.started group name).fault? = none := rfl

@[simp] theorem Event.fault?_ended (group name : String) (e : Evaluation) :
    (Event.ended group name e).fault? = e.fault := rfl

/-- No fault is reported but the one that ends everything. -/
theorem Bracketed.result_of_fault {task : Task} {es : List Event} {r : Except Fault Unit}
    (h : Bracketed task es r) {e : Event} (he : e ∈ es) {f : Fault} (hf : e.fault? = some f) :
    r = .error f := by
  induction h with
  | done | silent _ | refused => simp at he
  | next _ _ ihFirst ihRest =>
    rcases List.mem_append.mp he with he | he
    · cases ihFirst he
    · exact ihRest he
  | stop _ ih | nested _ ih => exact ih he
  | unanswered | holds =>
    simp only [List.mem_cons, List.not_mem_nil, or_false] at he
    rcases he with rfl | rfl <;> simp_all
  | @remedied _ _ _ _ r _ ih =>
    rcases List.mem_append.mp he with he | he
    · rcases List.mem_cons.mp he with rfl | he
      · simp at hf
      · exact ih he
    · obtain rfl := List.mem_singleton.mp he
      cases r <;> simp_all [Evaluation.ofRemedy]

/-- Tasks that cannot fail without a report: those that no action is a part of. -/
inductive Task.Announced : Task → Prop where
  | assertion (group name : String) (a : Assertion) : Announced (.assertion group name a)
  | inTurn {tasks : List Task} : (∀ task ∈ tasks, Announced task) → Announced (.inTurn tasks)

theorem Task.Announced.set (group : String) (assertions : Named Assertion) :
    (Task.set group assertions).Announced := by
  refine .inTurn fun task htask => ?_
  obtain ⟨⟨name, a⟩, -, rfl⟩ := List.mem_map.mp htask
  exact .assertion group name a

theorem Task.Announced.groups (gs : List Group) : (Task.groups gs).Announced := by
  refine .inTurn fun task htask => ?_
  obtain ⟨g, -, rfl⟩ := List.mem_map.mp htask
  exact .set g.name g.assertions

theorem Bracketed.exists_fault {task : Task} {es : List Event} {f : Fault}
    (h : Bracketed task es (.error f)) (htask : task.Announced) :
    ∃ e ∈ es, e.fault? = some f := by
  generalize hr : Except.error f = r at h
  induction h with
  | done | holds => cases hr
  | next _ _ _ ihRest =>
    cases htask with
    | inTurn htasks =>
      obtain ⟨e, he, hf⟩ := ihRest (.inTurn fun task h => htasks task (.tail _ h)) hr
      exact ⟨e, List.mem_append_right _ he, hf⟩
  | stop _ ih =>
    cases htask with
    | inTurn htasks => exact ih (htasks _ (.head _)) hr
  | unanswered =>
    cases hr
    exact ⟨_, .tail _ (.head _), rfl⟩
  | remedied =>
    subst hr
    exact ⟨_, List.mem_append_right _ (.head _), rfl⟩
  | silent _ | refused | nested _ _ => cases htask

theorem Bracketed.first_fault {task : Task} {es : List Event} {r : Except Fault Unit}
    (h : Bracketed task es r) (htask : task.Announced) :
    es.findSome? Event.fault? = faultOf r := by
  cases r with
  | ok =>
    apply List.findSome?_eq_none_iff.mpr
    intro e he
    cases hf : e.fault? with
    | none => rfl
    | some f => cases h.result_of_fault he hf
  | error f =>
    obtain ⟨e, he, hf⟩ := h.exists_fault htask
    have hsome : (es.findSome? Event.fault?).isSome :=
      List.findSome?_isSome_iff.mpr ⟨e, he, by simp [hf]⟩
    obtain ⟨f', hf'⟩ := Option.isSome_iff_exists.mp hsome
    obtain ⟨e', he', hfault⟩ := List.exists_of_findSome?_eq_some hf'
    cases h.result_of_fault he' hfault
    exact hf'

theorem append_split {α : Type} {xs ys before after : List α} {x : α}
    (h : xs ++ ys = before ++ x :: after) :
    (∃ rest, xs = before ++ x :: rest ∧ after = rest ++ ys) ∨
      ∃ front, before = xs ++ front ∧ ys = front ++ x :: after := by
  rcases List.append_eq_append_iff.mp h with ⟨front, hbefore, hys⟩ | ⟨rest, hxs, hafter⟩
  · exact Or.inr ⟨front, hbefore, hys⟩
  · rcases List.cons_eq_append_iff.mp hafter with ⟨rfl, hys⟩ | ⟨rest', rfl, htail⟩
    · exact Or.inr ⟨[], by simpa using hxs.symm, hys⟩
    · exact Or.inl ⟨rest', hxs, htail⟩

theorem bracket_split {group name group' name' : String} {e e' : Evaluation}
    (within : List Event) {before after : List Event}
    (h : Event.started group' name' :: within ++ [.ended group' name' e'] =
      before ++ .ended group name e :: after) :
    (before = .started group' name' :: within ∧ (group', name') = (group, name) ∧ e' = e ∧
        after = []) ∨
      ∃ front rest, before = .started group' name' :: front ∧
        within = front ++ .ended group name e :: rest ∧
        after = rest ++ [.ended group' name' e'] := by
  cases before with
  | nil => simp [Event.started, Event.ended] at h
  | cons b front =>
    obtain ⟨rfl, htail⟩ := List.cons.inj h
    rcases append_split htail with ⟨rest, hwithin, hafter⟩ | ⟨front', rfl, hend⟩
    · exact Or.inr ⟨front, rest, rfl, hwithin, hafter⟩
    · cases front' with
      | nil =>
        obtain ⟨hend, rfl⟩ := List.cons.inj hend
        cases e
        cases e'
        simp_all [Event.ended]
      | cons _ _ => simp at hend

def Event.unwound (f : Fault) (opened : String × String) : Event :=
  .ended opened.1 opened.2 (.ofRemedy (.error f))

/-- After an end with a fault, whatever is open is ended with it, and nothing else happens. -/
theorem Bracketed.unwinds {task : Task} {es : List Event} {r : Except Fault Unit}
    (h : Bracketed task es r) (opened : List (String × String)) {before after : List Event}
    {group name : String} {e : Evaluation} {f : Fault} (hf : e.fault = some f)
    (hes : es = before ++ .ended group name e :: after) :
    ∃ enclosing, after = enclosing.map (Event.unwound f) ∧
      openAfter opened before = some ((group, name) :: enclosing ++ opened) := by
  induction h generalizing opened before after with
  | done | silent _ | refused => simp at hes
  | next hfirst _ _ ihRest =>
    rcases append_split hes with ⟨rest, rfl, _⟩ | ⟨front, rfl, hrest⟩
    -- The first task ended well, so no fault is in what it reported.
    · cases hfirst.result_of_fault (e := .ended group name e) (by simp) hf
    · obtain ⟨enclosing, hafter, hopen⟩ := ihRest opened hrest
      exact ⟨enclosing, hafter, by simp [hfirst.closed, hopen]⟩
  | stop _ ih | nested _ ih => exact ih opened hes
  | unanswered | holds =>
    rcases bracket_split [] hes with ⟨rfl, hname, rfl, rfl⟩ | ⟨_, _, _, hnil, _⟩
    · simp_all
    · simp at hnil
  | @remedied group' name' _ _ r h ih =>
    rcases bracket_split _ hes with ⟨rfl, hname, rfl, rfl⟩ | ⟨front, rest, rfl, rfl, rfl⟩
    · exact ⟨[], rfl, by simp [h.closed, hname]⟩
    -- What is around the end within the remedy is around it here, and this assertion besides.
    · obtain rfl := h.result_of_fault (e := .ended group name e) (by simp) hf
      obtain ⟨enclosing, rfl, hopen⟩ := ih ((group', name') :: opened) rfl
      exact ⟨enclosing ++ [(group', name')], by simp [Event.unwound], by simp [hopen]⟩

/-! ### Sets of assertions -/

/-- What the events of a set of assertions are like that ends with this result. -/
structure WellBracketed (group : String) (assertions : Named Assertion) (es : List Event)
    (r : Except Fault Unit) : Prop where
  shape : Bracketed (.set group assertions) es r
  closed : openAfter [] es = some []
  level : outermost 0 es <+: (sorted assertions).map fun x => (group, x.1)
  whole : r = .ok () → outermost 0 es = (sorted assertions).map fun x => (group, x.1)
  unwound : ∀ before group' name' e f after,
    es = before ++ .ended group' name' e :: after → e.fault = some f →
    ∃ enclosing, openAfter [] before = some ((group', name') :: enclosing) ∧
      after = enclosing.map (Event.unwound f)

theorem Bracketed.wellBracketed {group : String} {assertions : Named Assertion}
    {es : List Event} {r : Except Fault Unit} (h : Bracketed (.set group assertions) es r) :
    WellBracketed group assertions es r where
  shape := h
  closed := h.closed []
  level := h.level.1
  whole := h.level.2
  unwound := by
    intro before group' name' e f after hes hf
    obtain ⟨enclosing, hafter, hopen⟩ := h.unwinds [] hf hes
    exact ⟨enclosing, by simpa using hopen, hafter⟩

/-- Whatever fails, and however deep, a set of assertions is reported in brackets; and a level goes
by order number first and by name second. -/
theorem evaluateAll_wellBracketed (disk : σ → Disk) (t : Target σ) (group : String)
    (assertions : Named Assertion) (p : Progress σ) :
    (∃ es, (evaluateAll disk t group assertions p).2.events = p.events ++ es ∧
      WellBracketed group assertions es (evaluateAll disk t group assertions p).1) ∧
    (sorted assertions).Perm assertions ∧
    (sorted assertions).Pairwise fun a b => a.2.effectiveOrder < b.2.effectiveOrder ∨
      (a.2.effectiveOrder = b.2.effectiveOrder ∧ a.1 ≤ b.1) := by
  refine ⟨?_, sorted_perm assertions, sorted_pairwise assertions⟩
  obtain ⟨s, d, events, notes⟩ := p
  have hfollows : Step.Follows disk t d (.set group assertions) _ := .evaluateAll group assertions
  obtain ⟨record, r, s', notes', hrec, hstep⟩ := hfollows s events notes
  rw [hstep]
  exact ⟨record.events, rfl, hrec.bracketed.wellBracketed⟩

end Upkeep
