import Upkeep.Proofs.RoundTrip
import Upkeep.Proofs.Verdicts

/-!
Runs of groups that have been accepted. Such a run does not come upon a check or an action that the
evaluator does not know, and an assertion does not pass in it unless it was found to hold, or all of
its actions did their part. Only the limit on nesting is left to be found out by the run.
-/

set_option autoImplicit false

namespace Upkeep

variable {σ : Type}

/-! ### Proper tasks -/

inductive Task.Proper : Task → Prop where
  | assertion {group name : String} {a : Assertion} :
      a.Proper → (∀ inner, .assert inner ∈ a.actions → Thorough inner) →
      Proper (.assertion group name a)
  | action {parent : String} {x : Action} :
      x.Proper → (∀ inner, x = .assert inner → Thorough inner) → Proper (.action parent x)
  | inTurn {tasks : List Task} : (∀ task ∈ tasks, Proper task) → Proper (.inTurn tasks)

namespace Task.Proper

theorem set {assertions : Named Assertion} (h : Thorough assertions) (group : String) :
    (Task.set group assertions).Proper := by
  refine .inTurn fun task htask => ?_
  obtain ⟨⟨name, a⟩, ha, rfl⟩ := List.mem_map.mp htask
  have hmem : (name, a) ∈ assertions := (sorted_perm assertions).mem_iff.mp ha
  exact .assertion (h _ .whole _ hmem) fun inner hinner => h.within (.action .whole hmem hinner)

theorem groups {gs : List Group} (h : ∀ g ∈ gs, g.Accepted) : (Task.groups gs).Proper := by
  refine .inTurn fun task htask => ?_
  obtain ⟨g, hg, rfl⟩ := List.mem_map.mp htask
  exact .set (h g hg).thorough g.name

theorem actions {group name : String} {a : Assertion} (h : (Task.assertion group name a).Proper)
    {parent : String} {x : Action} (hx : x ∈ a.actions) : (Task.action parent x).Proper := by
  cases h with
  | assertion ha hinner =>
    refine .action (ha.actions x hx) ?_
    rintro inner rfl
    exact hinner inner hx

theorem remedy {group name : String} {a : Assertion} (h : (Task.assertion group name a).Proper) :
    (Task.remedy group name a).Proper := by
  refine .inTurn fun task htask => ?_
  obtain ⟨x, hx, rfl⟩ := List.mem_map.mp htask
  exact h.actions hx

theorem head {task : Task} {tasks : List Task} (h : (Task.inTurn (task :: tasks)).Proper) :
    task.Proper := by
  cases h with
  | inTurn htasks => exact htasks task (.head tasks)

theorem tail {task : Task} {tasks : List Task} (h : (Task.inTurn (task :: tasks)).Proper) :
    (Task.inTurn tasks).Proper := by
  cases h with
  | inTurn htasks => exact .inTurn fun task' htask' => htasks task' (.tail task htask')

theorem nested {parent group : String} {inner : Named Assertion}
    (h : (Task.action parent (.assert inner)).Proper) : (Task.set group inner).Proper := by
  cases h with
  | action _ hinner => exact .set (hinner inner rfl) group

end Task.Proper

/-! ### Faults -/

/-- Faults that tell of a malformed set of assertions. -/
def Fault.isMalformed : Fault → Bool
  | .unknownAssertionKind _ | .unrecognisedActionKind _ | .nestingTooDeep _ => true
  | _ => false

theorem Disk.digest_isMalformed {d : Disk} {path : String} {f : Fault}
    (h : d.digest path = .error f) : f.isMalformed = false := by
  rcases Disk.digest_error h with ⟨_, rfl⟩ | ⟨_, rfl⟩ <;> rfl

/-- What a proper task can be malformed in is how deep it nests. -/
theorem Recorded.malformed {disk : σ → Disk} {t : Target σ} {d : Nat} {task : Task} {s s' : σ}
    {record : Record} {r : Except Fault Unit} (h : Recorded disk t d task s record r s')
    (htask : task.Proper) {f : Fault} (hr : r = .error f) (hf : f.isMalformed = true) :
    t.Raises f ∨ f = .nestingTooDeep maxNesting := by
  -- Whatever a proper task leads to is proper again, so the faults of other tasks do not come up.
  induction h with
  | done | holds _ | unset | copied _ => cases hr
  | next _ _ _ ihRest => exact ihRest htask.tail hr
  | stop _ ih => exact ih htask.head hr
  | unanswered hc =>
    cases hr
    rcases Condition.check_error hc with hraises | ⟨_, hd⟩ | ⟨kind, hkind, -⟩
    · exact Or.inl hraises
    · rw [Disk.digest_isMalformed hd] at hf
      cases hf
    · cases htask with
      | assertion ha _ => exact absurd hkind (ha.known kind)
  | remedied _ _ ih => exact ih htask.remedy hr
  | fail =>
    cases hr
    cases hf
  | notCopied hc =>
    cases hr
    rcases deliver_error hc with hraises | ⟨_, rfl⟩
    · exact Or.inl hraises
    · cases hf
  | nested _ _ ih => exact ih htask.nested hr
  | tooDeep _ =>
    cases hr
    exact Or.inr rfl
  | unrecognised =>
    cases htask with
    | action hx _ => cases hx

/-! ### Verdicts -/

/-- The assertions of a record that are not within others, in order. -/
def Record.level : Record → List Verdict
  | .nothing => []
  | .assertion group name a answer remedy e rest =>
    ⟨group, name, a, answer, remedy, e⟩ :: rest.level
  | .action _ _ _ _ rest => rest.level

@[simp] theorem Record.level_append (first after : Record) :
    (first ++ after).level = first.level ++ after.level := by
  induction first with
  | nothing => rfl
  | assertion group name a answer remedy e rest _ ih => simp [level, ih]
  | action parent x within result rest _ ih => simp [level, ih]

theorem Recorded.level_of_assertion {disk : σ → Disk} {t : Target σ} {d : Nat}
    {group name : String} {a : Assertion} {s s' : σ} {record : Record} {r : Except Fault Unit}
    (h : Recorded disk t d (.assertion group name a) s record r s') :
    record.level.map (fun v => (v.name, v.assertion)) = [(name, a)] := by
  cases h <;> rfl

/-- Without a fault, a set is gone through as a whole. -/
theorem Recorded.level {disk : σ → Disk} {t : Target σ} {d : Nat} {group : String}
    {as : List (String × Assertion)} {s s' : σ} {record : Record}
    (h : Recorded disk t d (.inTurn (as.map fun (name, a) => .assertion group name a)) s record
      (.ok ()) s') :
    record.level.map (fun v => (v.name, v.assertion)) = as := by
  induction as generalizing s record with
  | nil =>
    cases h
    rfl
  | cons first as ih =>
    cases h with
    | next hfirst hrest =>
      rw [Record.level_append, List.map_append, hfirst.level_of_assertion, ih hrest,
        List.singleton_append]

/-- A copy that was made, or a set that is not empty, all of which was found or made to hold. -/
inductive Deed.Done : Deed → Prop where
  | copied {parent source destination : String} {within : Record} :
      Done ⟨parent, .copyFile source destination, within, .ok ()⟩
  | nested {parent : String} {inner : Named Assertion} {within : Record} : inner ≠ [] →
      within.level.map (fun v => (v.name, v.assertion)) = sorted inner →
      (∀ v ∈ within.verdicts, v.evaluation.outcome = .noop ∨ v.evaluation.outcome = .applied) →
      Done ⟨parent, .assert inner, within, .ok ()⟩

/-- What there was to do has been done, and that is not nothing. -/
structure Verdict.Remedied (v : Verdict) : Prop where
  acts : v.assertion.actions ≠ []
  all : v.remedy.deeds.map Deed.action = v.assertion.actions
  done : ∀ x ∈ v.remedy.deeds, x.Done

theorem Recorded.quiet {disk : σ → Disk} {t : Target σ} {d : Nat} {task : Task} {s s' : σ}
    {record : Record} (h : Recorded disk t d task s record (.ok ()) s') {v : Verdict}
    (hv : v ∈ record.verdicts) :
    v.evaluation.outcome = .noop ∨ v.evaluation.outcome = .applied := by
  obtain ⟨_, _, _, _, hrun⟩ := h.of_verdict hv
  have hnone : v.evaluation.fault = none := by
    cases hfault : v.evaluation.fault with
    | none => rfl
    | some f => cases h.result_of_verdict hv hfault
  exact hrun.fits.quiet.mp hnone

theorem Recorded.done_of_action {disk : σ → Disk} {t : Target σ} {d : Nat} {parent : String}
    {x : Action} {s s' : σ} {record : Record}
    (h : Recorded disk t d (.action parent x) s record (.ok ()) s') (hx : x.Proper) :
    ∀ y ∈ record.deeds, y.Done := by
  intro y hy
  cases h with
  | unset => cases hx
  | copied _ =>
    obtain rfl := List.mem_singleton.mp hy
    exact .copied
  | nested _ hset =>
    obtain rfl := List.mem_singleton.mp hy
    cases hx with
    | assert hinner => exact .nested hinner hset.level fun v hv => hset.quiet hv

theorem Recorded.done_of_deed {disk : σ → Disk} {t : Target σ} {d : Nat} {parent : String}
    {xs : List Action} {s s' : σ} {record : Record}
    (h : Recorded disk t d (.inTurn (xs.map (.action parent))) s record (.ok ()) s')
    (hxs : ∀ x ∈ xs, x.Proper) : ∀ y ∈ record.deeds, y.Done := by
  induction xs generalizing s record with
  | nil =>
    cases h
    intro y hy
    cases hy
  | cons x xs ih =>
    cases h with
    | next hfirst hrest =>
      intro y hy
      rw [Record.deeds_append] at hy
      rcases List.mem_append.mp hy with hy | hy
      · exact hfirst.done_of_action (hxs x (.head xs)) y hy
      · exact ih hrest (fun x' hx' => hxs x' (.tail x hx')) y hy

/-- An assertion passes for a reason. -/
structure Verdict.Earned (v : Verdict) : Prop where
  noop : v.evaluation.outcome = .noop → v.answer = .ok true
  applied : v.evaluation.outcome = .applied → v.Remedied

theorem Recorded.earned {disk : σ → Disk} {t : Target σ} {d : Nat} {s s' : σ} {v : Verdict}
    {r : Except Fault Unit}
    (h : Recorded disk t d (.assertion v.group v.name v.assertion) s v.toRecord r s')
    (ha : v.assertion.Proper) : v.Earned := by
  obtain ⟨group, name, a, answer, remedy, e⟩ := v
  cases h with
  | unanswered _ => exact ⟨by simp, by simp⟩
  | holds _ => exact ⟨fun _ => rfl, by simp⟩
  | remedied _ hremedy =>
    cases r with
    | ok =>
      refine ⟨by simp, fun _ => ⟨ha.acts, ?_, ?_⟩⟩
      · exact (Recorded.deeds hremedy).2.1 rfl
      · exact hremedy.done_of_deed ha.actions
    | error f =>
      constructor
      · cases f <;> simp [Outcome.ofFault, Fault.isAssertionFailure]
      · cases f <;> simp [Outcome.ofFault, Fault.isAssertionFailure]

theorem Recorded.proper_of_verdict {disk : σ → Disk} {t : Target σ} {d : Nat} {task : Task}
    {s s' : σ} {record : Record} {r : Except Fault Unit}
    (h : Recorded disk t d task s record r s') (htask : task.Proper) {v : Verdict}
    (hv : v ∈ record.verdicts) : v.assertion.Proper := by
  induction h with
  | done | unset | fail | copied _ | notCopied _ | tooDeep _ | unrecognised => cases hv
  | next _ _ ihFirst ihRest =>
    rw [Record.verdicts_append] at hv
    rcases List.mem_append.mp hv with hv | hv
    · exact ihFirst htask.head hv
    · exact ihRest htask.tail hv
  | stop _ ih => exact ih htask.head hv
  | unanswered _ | holds _ =>
    obtain rfl := List.mem_singleton.mp hv
    cases htask with
    | assertion ha _ => exact ha
  | remedied _ _ ih =>
    rcases List.mem_append.mp hv with hv | hv
    · exact ih htask.remedy hv
    · obtain rfl := List.mem_singleton.mp hv
      cases htask with
      | assertion ha _ => exact ha
  | nested _ _ ih => exact ih htask.nested (by simpa [Record.verdicts] using hv)

theorem Recorded.all_earned {disk : σ → Disk} {t : Target σ} {d : Nat} {task : Task}
    {s s' : σ} {record : Record} {r : Except Fault Unit}
    (h : Recorded disk t d task s record r s') (htask : task.Proper) :
    ∀ v ∈ record.verdicts, v.Earned := by
  intro v hv
  obtain ⟨_, _, _, _, hrun⟩ := h.of_verdict hv
  exact hrun.earned (h.proper_of_verdict htask hv)

/-! ### Runs -/

/-- A fault shows in an event or is the result. -/
def Carried (es : List Event) (r : Except Fault Unit) (f : Fault) : Prop :=
  (∃ e ∈ es, e.fault? = some f) ∨ r = .error f

/-- A run without faults that accepted groups rule out, in which every assertion passes for a
reason. Of malformed sets, only too deep ones are met, unless machines raise such faults. -/
structure Record.Diligent (raised : Fault → Prop) (record : Record) (es : List Event)
    (r : Except Fault Unit) : Prop where
  reported : es.filter Event.isFinal = record.verdicts.map Verdict.event
  earned : ∀ v ∈ record.verdicts, v.Earned
  knownKinds : ∀ kind, ¬ Carried es r (.unknownAssertionKind kind)
  knownActions : ∀ kind, ¬ Carried es r (.unrecognisedActionKind kind)
  malformed : ∀ f, Carried es r f → f.isMalformed = true →
    raised f ∨ f = .nestingTooDeep maxNesting

/-- Neither kind of fault that acceptance rules out. -/
def Sparing (raised : Fault → Prop) : Prop :=
  ∀ kind, ¬ raised (.unknownAssertionKind kind) ∧ ¬ raised (.unrecognisedActionKind kind)

theorem Record.Diligent.of_sparing {raised : Fault → Prop} (hraised : Sparing raised)
    {record : Record} {es : List Event} {r : Except Fault Unit}
    (hreported : es.filter Event.isFinal = record.verdicts.map Verdict.event)
    (hearned : ∀ v ∈ record.verdicts, v.Earned)
    (hmalformed : ∀ f, Carried es r f → f.isMalformed = true →
      raised f ∨ f = .nestingTooDeep maxNesting) : record.Diligent raised es r where
  reported := hreported
  earned := hearned
  knownKinds kind hcarried := by
    rcases hmalformed _ hcarried rfl with h | h
    · exact (hraised kind).1 h
    · cases h
  knownActions kind hcarried := by
    rcases hmalformed _ hcarried rfl with h | h
    · exact (hraised kind).2 h
    · cases h
  malformed := hmalformed

theorem Recorded.diligent {disk : σ → Disk} {t : Target σ} (ht : Sparing t.Raises) {d : Nat}
    {task : Task} {s s' : σ} {record : Record} {r : Except Fault Unit}
    (h : Recorded disk t d task s record r s') (htask : task.Proper) :
    record.Diligent t.Raises record.events r := by
  refine .of_sparing ht record.finals (h.all_earned htask) fun f hcarried hf => ?_
  rcases hcarried with ⟨e, he, hfault⟩ | hr
  · exact h.malformed htask (h.bracketed.result_of_fault he hfault) hf
  · exact h.malformed htask hr hf

section Tours

variable {disk : σ → Disk} {connector : Connector σ} {groups : List Group} {s s' : σ}

/-- A fault that a stay carries is one of the connection, or the evaluation has ended with it. -/
theorem Stay.Happened.carried {stay : Stay σ} (h : stay.Happened disk connector groups s s')
    {f : Fault} (hcarried : Carried stay.events (resultOf stay.fault) f) :
    connector.Raises f ∨ ∃ (t : Target σ) (s₁ s₂ : σ), (t.Raises f → connector.Raises f) ∧
      Recorded disk t 0 (.groups groups) s₁ stay.record (.error f) s₂ := by
  cases h with
  | refused hconnect =>
    left
    rcases hcarried with ⟨e, he, hfault⟩ | hr
    · simp only [events, List.mem_cons, List.not_mem_nil, or_false] at he
      rcases he with rfl | rfl
      · cases hfault
      · cases hfault
        exact .connect hconnect
    · cases hr
      exact .connect hconnect
  | @served name m t record evaluated released s s₁ s₂ s' notes hconnect hrec hclose =>
    have hevaluated (hr : evaluated = .error f) : connector.Raises f ∨
        ∃ (t : Target σ) (s₁ s₂ : σ), (t.Raises f → connector.Raises f) ∧
          Recorded disk t 0 (.groups groups) s₁ record (.error f) s₂ := by
      subst hr
      exact Or.inr ⟨t, s₁, s₂, fun hraises => .target hconnect hraises, hrec⟩
    rcases hcarried with ⟨e, he, hfault⟩ | hr
    · simp only [events, List.mem_cons] at he
      rcases he with rfl | rfl | he
      · cases hfault
      · cases hfault
      · exact hevaluated (hrec.bracketed.result_of_fault he hfault)
    · cases evaluated with
      | error f' =>
        cases hr
        exact hevaluated rfl
      | ok =>
        cases released with
        | error f' =>
          cases hr
          exact Or.inl (.target hconnect (.close hclose))
        | ok => cases hr

theorem Stay.Happened.malformed {stay : Stay σ} (h : stay.Happened disk connector groups s s')
    (hgroups : ∀ g ∈ groups, g.Accepted) {f : Fault}
    (hcarried : Carried stay.events (resultOf stay.fault) f) (hf : f.isMalformed = true) :
    connector.Raises f ∨ f = .nestingTooDeep maxNesting := by
  rcases h.carried hcarried with hraises | ⟨t, _, _, hraises, hrec⟩
  · exact Or.inl hraises
  · exact (hrec.malformed (.groups hgroups) rfl hf).imp_left hraises

theorem Stay.Happened.all_earned {stay : Stay σ} (h : stay.Happened disk connector groups s s')
    (hgroups : ∀ g ∈ groups, g.Accepted) : ∀ v ∈ stay.record.verdicts, v.Earned := by
  cases h with
  | refused _ =>
    intro v hv
    cases hv
  | served _ hrec _ => exact hrec.all_earned (.groups hgroups)

theorem Tour.carried {machines : List (String × Machine)} {stays : List (Stay σ)}
    {r : Except Fault Unit} (h : Tour disk connector groups machines s stays r s') {f : Fault}
    (hcarried : Carried (stays.flatMap Stay.events) r f) :
    ∃ stay ∈ stays, Carried stay.events (resultOf stay.fault) f := by
  rcases hcarried with ⟨e, he, hfault⟩ | hr
  · obtain ⟨stay, hstay, he⟩ := List.mem_flatMap.mp he
    exact ⟨stay, hstay, Or.inl ⟨e, he, hfault⟩⟩
  · induction h with
    | done => cases hr
    | next _ _ _ _ ih =>
      obtain ⟨stay, hstay, hf⟩ := ih hr
      exact ⟨stay, .tail _ hstay, hf⟩
    | stop _ _ hfault =>
      refine ⟨_, .head [], Or.inr ?_⟩
      rw [hfault]
      exact hr

theorem mem_recordOf {stays : List (Stay σ)} {v : Verdict} (hv : v ∈ (recordOf stays).verdicts) :
    ∃ stay ∈ stays, v ∈ stay.record.verdicts := by
  induction stays with
  | nil => cases hv
  | cons stay stays ih =>
    rw [recordOf_cons, Record.verdicts_append] at hv
    rcases List.mem_append.mp hv with hv | hv
    · exact ⟨stay, .head stays, hv⟩
    · obtain ⟨stay', hstay', hv'⟩ := ih hv
      exact ⟨stay', .tail stay hstay', hv'⟩

theorem Tour.diligent (hc : Sparing connector.Raises) (hgroups : ∀ g ∈ groups, g.Accepted)
    {machines : List (String × Machine)} {stays : List (Stay σ)} {r : Except Fault Unit}
    (h : Tour disk connector groups machines s stays r s') :
    (recordOf stays).Diligent connector.Raises (stays.flatMap Stay.events) r := by
  refine .of_sparing hc (recordOf_finals stays) (fun v hv => ?_) fun f hcarried hf => ?_
  · obtain ⟨stay, hstay, hv⟩ := mem_recordOf hv
    obtain ⟨_, _, hhappened⟩ := h.happened hstay
    exact hhappened.all_earned hgroups v hv
  · obtain ⟨stay, hstay, hcarried⟩ := h.carried hcarried
    obtain ⟨_, _, hhappened⟩ := h.happened hstay
    exact hhappened.malformed hgroups hcarried hf

end Tours

/-! ### The limit on nesting -/

/-- A set of one assertion, that some file is there. -/
def link (xs : List Action) : Named Assertion :=
  [("m", ⟨{ kind := .fileExists, filePath := "/m" }, some defaultOrder, xs⟩)]

/-- Sets within one another, so many beyond the first. -/
def chain : Nat → Named Assertion
  | 0 => link [.fail]
  | n + 1 => link [.assert (chain n)]

theorem chain_nesting (n : Nat) : assertionsNesting (chain n) = n := by
  induction n with
  | zero => rfl
  | succ n ih =>
    simp [chain, link, assertionsNesting, Assertion.nesting, actionsNesting, Action.nesting, ih]

theorem chain_normal (n : Nat) : normalizeAll (chain n) = chain n := by
  induction n with
  | zero => rfl
  | succ n ih =>
    simp [chain, link, normalizeAll, Assertion.normalize, normalizeActions, Action.normalize, ih]

theorem chain_ordered (n : Nat) : Ordered (chain n) := by
  induction n with
  | zero =>
    refine .of_actions (List.pairwise_singleton _ _) fun e he inner hinner => ?_
    obtain rfl := List.mem_singleton.mp he
    cases List.mem_singleton.mp hinner
  | succ n ih =>
    refine .of_actions (List.pairwise_singleton _ _) fun e he inner hinner => ?_
    obtain rfl := List.mem_singleton.mp he
    obtain rfl := Action.assert.inj (List.mem_singleton.mp hinner)
    exact ih

theorem chain_ne_nil (n : Nat) : chain n ≠ [] := by
  cases n <;> exact List.cons_ne_nil _ _

theorem link_valid {xs : List Action} (h : ∀ x ∈ xs, x.validate = .ok ()) :
    validateAll (link xs) = .ok () := by
  have hname : Text.isBlankText "m" = false := by decide
  have hcondition : Condition.validate { kind := .fileExists, filePath := "/m" } = .ok () := rfl
  refine validateAll_ok_iff.mpr fun e he => ?_
  obtain rfl := List.mem_singleton.mp he
  exact ⟨hname, Assertion.validate_ok_iff.mpr ⟨hcondition, h⟩⟩

theorem chain_valid (n : Nat) : validateAll (chain n) = .ok () := by
  induction n with
  | zero =>
    refine link_valid fun x hx => ?_
    obtain rfl := List.mem_singleton.mp hx
    rfl
  | succ n ih =>
    refine link_valid fun x hx => ?_
    obtain rfl := List.mem_singleton.mp hx
    exact Action.validate_assert_ok_iff.mpr ⟨chain_ne_nil n, ih⟩

theorem chain_accepted {n : Nat} (hn : 4 * n + 2 ≤ 124) (name : String) :
    (⟨name, chain n⟩ : Group).Accepted := by
  refine .of_prepared (chain_ordered n) ?_ ?_ (chain_valid n)
  · rw [Group.nesting, chain_nesting]
    exact hn
  · rw [Group.normalize, chain_normal]

theorem Recorded.of_chain {disk : σ → Disk} {t : Target σ} {s : σ}
    (hcheck : Condition.check disk t { kind := .fileExists, filePath := "/m" } s = (.ok false, s))
    {n d : Nat} (hd : d ≤ maxNesting) (hn : maxNesting < d + n) (group : String) :
    ∃ record, Recorded disk t d (.set group (chain n)) s record
      (.error (.nestingTooDeep maxNesting)) s := by
  -- Each set is one deeper and has one less within it, so the limit is met before the last.
  induction n generalizing d group with
  | zero => omega
  | succ n ih =>
    have haction : ∃ record, Recorded disk t d
        (.action (group ++ "/" ++ "m") (.assert (chain n))) s record
        (.error (.nestingTooDeep maxNesting)) s := by
      by_cases hdeep : maxNesting ≤ d
      · exact ⟨_, .tooDeep hdeep⟩
      · obtain ⟨record, hrec⟩ := ih (d := d + 1) (by omega) (by omega) (group ++ "/" ++ "m")
        exact ⟨_, .nested (by omega) hrec⟩
    obtain ⟨record, hrec⟩ := haction
    have hset : Task.set group (chain (n + 1)) = .inTurn [.assertion group "m"
        ⟨{ kind := .fileExists, filePath := "/m" }, some defaultOrder,
          [.assert (chain n)]⟩] := by
      simp [Task.set, chain, link, sorted]
    rw [hset]
    exact ⟨_, .stop (.remedied hcheck (.stop hrec))⟩

theorem chain_exceeds {disk : σ → Disk} {t : Target σ} {s : σ}
    (hcheck : Condition.check disk t { kind := .fileExists, filePath := "/m" } s = (.ok false, s))
    {n : Nat} (hn : maxNesting < n) (group : String) :
    (evaluateAll disk t group (chain n) ⟨s, 0, [], []⟩).1 =
      .error (.nestingTooDeep maxNesting) := by
  have hfollows : Step.Follows disk t 0 (.set group (chain n)) _ := .evaluateAll group (chain n)
  obtain ⟨record, r, s', notes', hrec, hstep⟩ := hfollows s [] []
  obtain ⟨record', hrec'⟩ : ∃ record, Recorded disk t 0 (.set group (chain n)) s record
      (.error (.nestingTooDeep maxNesting)) s :=
    Recorded.of_chain hcheck (Nat.zero_le _) (by omega) group
  rw [hstep]
  exact (hrec.unique hrec').2.1

/-- Whatever an accepted group is run on, kinds of assertions and of actions are known throughout,
and what passes has been found or made to hold. That sets nest too deep is not ruled out. -/
theorem accepted_diligent (disk : σ → Disk) :
    (∀ t : Target σ, Sparing t.Raises → ∀ g : Group, g.Accepted → ∀ p : Progress σ, ∃ record,
      Recorded disk t p.depth (.set g.name g.assertions) p.world record
        (evaluateAll disk t g.name g.assertions p).1
        (evaluateAll disk t g.name g.assertions p).2.world ∧
      (evaluateAll disk t g.name g.assertions p).2.events = p.events ++ record.events ∧
      record.Diligent t.Raises record.events (evaluateAll disk t g.name g.assertions p).1) ∧
    (∀ connector : Connector σ, Sparing connector.Raises →
      ∀ plan : Plan, (∀ g ∈ plan.groups, g.Accepted) → ∀ s : σ, ∃ stays,
        Tour disk connector plan.groups plan.fleet.machines s stays (plan.run disk connector s).1
          (plan.run disk connector s).2.world ∧
        (recordOf stays).Diligent connector.Raises (plan.run disk connector s).2.events
          (plan.run disk connector s).1) ∧
    ∃ g : Group, g.Accepted ∧ ∃ s : Site,
      (evaluateAll Site.disk (Site.target .literal "a") g.name g.assertions ⟨s, 0, [], []⟩).1 =
        .error (.nestingTooDeep maxNesting) := by
  refine ⟨?_, ?_, ?_⟩
  · intro t ht g hg p
    obtain ⟨s, d, events, notes⟩ := p
    have hfollows : Step.Follows disk t d (.set g.name g.assertions) _ :=
      .evaluateAll g.name g.assertions
    obtain ⟨record, r, s', notes', hrec, hstep⟩ := hfollows s events notes
    rw [hstep]
    exact ⟨record, hrec, rfl, hrec.diligent ht (.set hg.thorough g.name)⟩
  · intro connector hc plan hplan s
    obtain ⟨stays, htour, hevents⟩ := plan.run_tours disk connector s
    refine ⟨stays, htour, ?_⟩
    rw [hevents]
    exact htour.diligent hc hplan
  · have hcheck : Condition.check Site.disk (Site.target .literal "a")
        { kind := .fileExists, filePath := "/m" } bareSite = (.ok false, bareSite) := rfl
    exact ⟨⟨"deep", chain 17⟩, chain_accepted (by decide) "deep", bareSite,
      chain_exceeds hcheck (by decide) "deep"⟩

/-- A file that is missing is brought, and then another. -/
def supplied : Group :=
  ⟨"base", [("motd", ⟨{ kind := .fileExists, filePath := "/etc/motd" }, some defaultOrder,
    [.copyFile "/old" "/etc/motd",
      .assert [("issue", ⟨{ kind := .fileExists, filePath := "/etc/issue" }, some defaultOrder,
        [.copyFile "/new" "/etc/issue"]⟩)]]⟩)]⟩

def emptySite : Site :=
  ⟨⟨[(["old"], .file [1]), (["new"], .file [2])], [], ""⟩, [("a", {})]⟩

theorem supplied_accepted : supplied.Accepted := by
  refine .of_prepared ?_ (by decide) rfl rfl
  refine .of_actions (List.pairwise_singleton _ _) fun e he inner hinner => ?_
  obtain rfl := List.mem_singleton.mp he
  rcases List.mem_cons.mp hinner with hcopy | hinner
  · cases hcopy
  obtain rfl := Action.assert.inj (List.mem_singleton.mp hinner)
  refine .of_actions (List.pairwise_singleton _ _) fun e he inner hinner => ?_
  obtain rfl := List.mem_singleton.mp he
  cases List.mem_singleton.mp hinner

def supplying : Plan := ⟨⟨"one", [("a", {})]⟩, [supplied]⟩

theorem Site.target_sparing (matcher : Matcher) (name : String) :
    Sparing (Site.target matcher name).Raises := by
  intro kind
  constructor <;>
    · intro h
      cases Site.target_fault h

theorem Site.connector_sparing (matcher : Matcher) : Sparing (Site.connector matcher).Raises := by
  intro kind
  constructor <;>
    · intro h
      cases Site.connector_fault h

theorem supplied_diligent :
    (supplied.Accepted ∧ Sparing (Site.target .literal "a").Raises ∧ ∃ record s',
      Recorded Site.disk (Site.target .literal "a") 0 (.set "base" supplied.assertions) emptySite
        record (.ok ()) s' ∧
      record.Diligent (Site.target .literal "a").Raises
        [.started "base" "motd", .started "base/motd" "issue",
          .ended "base/motd" "issue" ⟨.applied, none⟩, .ended "base" "motd" ⟨.applied, none⟩]
        (.ok ())) ∧
    ((∀ g ∈ supplying.groups, g.Accepted) ∧ Sparing (Site.connector .literal).Raises ∧ ∃ stays s',
      Tour Site.disk (Site.connector .literal) supplying.groups supplying.fleet.machines emptySite
        stays (.ok ()) s' ∧
      (recordOf stays).Diligent (Site.connector .literal).Raises
        (supplying.run Site.disk (Site.connector .literal) emptySite).2.events (.ok ())) := by
  have hplanned : ∀ g ∈ supplying.groups, g.Accepted := by
    intro g hg
    obtain rfl := List.mem_singleton.mp hg
    exact supplied_accepted
  obtain ⟨hset, hplan, -⟩ := accepted_diligent Site.disk
  obtain ⟨record, hrec, hevents, hrecord⟩ :=
    hset (Site.target .literal "a") (Site.target_sparing .literal "a")
    supplied supplied_accepted ⟨emptySite, 0, [], []⟩
  obtain ⟨stays, htour, hstays⟩ :=
    hplan (Site.connector .literal) (Site.connector_sparing .literal) supplying hplanned emptySite
  have hresult : (evaluateAll Site.disk (Site.target .literal "a") supplied.name supplied.assertions
      ⟨emptySite, 0, [], []⟩).1 = .ok () := by
    decide +kernel
  have hreported : (evaluateAll Site.disk (Site.target .literal "a") supplied.name
      supplied.assertions
      ⟨emptySite, 0, [], []⟩).2.events =
        [.started "base" "motd", .started "base/motd" "issue",
          .ended "base/motd" "issue" ⟨.applied, none⟩, .ended "base" "motd" ⟨.applied, none⟩] := by
    decide +kernel
  have hrun : (supplying.run Site.disk (Site.connector .literal) emptySite).1 = .ok () := by
    decide +kernel
  rw [hreported, List.nil_append] at hevents
  rw [hresult] at hrec hrecord
  rw [← hevents] at hrecord
  rw [hrun] at htour hstays
  exact ⟨⟨supplied_accepted, Site.target_sparing .literal "a", record, _, hrec, hrecord⟩,
    ⟨hplanned, Site.connector_sparing .literal, stays, _, htour, hstays⟩⟩

end Upkeep
