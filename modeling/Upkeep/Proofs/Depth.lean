import Upkeep.Proofs.Diligence

/-!
How deep runs nest. Whatever is evaluated, and however it ends, the depth is afterwards what it was
before, so the limit is met by an action that lies in that many sets and by no other.
-/

set_option autoImplicit false

namespace Upkeep

variable {σ : Type}

/-! ### The depth of a run under way -/

section Steps

variable {disk : σ → Disk} {t : Target σ}

theorem Step.Follows.depth {d : Nat} {task : Task} {step : Step σ Unit}
    (h : Step.Follows disk t d task step) {p : Progress σ} (hp : p.depth = d) :
    (step p).2.depth = d := by
  obtain ⟨s, d', events, notes⟩ := p
  have hd : d' = d := hp
  subst d'
  obtain ⟨record, r, s', notes', -, hstep⟩ := h s events notes
  rw [hstep]

theorem Action.take_depth (parent : String) (x : Action) (p : Progress σ) :
    (x.take disk t parent p).2.depth = p.depth := by
  have hfollows : Step.Follows disk t p.depth (.action parent x) (x.take disk t parent) :=
    .take .nestedSet parent x
  exact hfollows.depth rfl

theorem Assertion.evaluate_depth (group name : String) (a : Assertion) (p : Progress σ) :
    (a.evaluate disk t group name p).2.depth = p.depth := by
  have hactions : Step.Follows disk t p.depth
      (.inTurn (a.actions.map (.action (nestedName group name)))) _ :=
    .takeAll .nestedSet (nestedName group name) a.actions
  unfold evaluate evaluateWith
  have hcheck : (Step.ofOp (a.condition.check disk t) p).2.depth = p.depth := rfl
  rcases hc : Step.ofOp (a.condition.check disk t) p with ⟨f | holds, p'⟩
  · simpa [hc] using hcheck
  rw [hc] at hcheck
  cases holds with
  | true => exact hcheck
  | false =>
    have htaken := hactions.depth hcheck
    rcases hr : takeAll (Action.takeWith (evaluateNested disk t maxNesting) disk t
        (nestedName group name)) a.actions p' with ⟨f | _, p''⟩ <;>
      simpa [hr] using htaken

theorem evaluateAll_depth (group : String) (assertions : Named Assertion) (p : Progress σ) :
    (evaluateAll disk t group assertions p).2.depth = p.depth := by
  have hfollows : Step.Follows disk t p.depth (.set group assertions) _ :=
    .evaluateAll group assertions
  exact hfollows.depth rfl

/-! ### The levels that are left -/

/-- At this depth two steps do the same. -/
def Step.Same (d : Nat) (step step' : Step σ Unit) : Prop :=
  ∀ p : Progress σ, p.depth = d → step p = step' p

section Levels

variable {d : Nat} {nested nested' : String → Named Assertion → Step σ Unit}

theorem Step.Same.bind {task : Task} {first first' rest rest' : Step σ Unit}
    (hfirst : Step.Same d first first') (hfollows : Step.Follows disk t d task first)
    (hrest : Step.Same d rest rest') :
    Step.Same d (first >>= fun _ => rest) (first' >>= fun _ => rest') := by
  intro p hp
  have hdepth := hfollows.depth hp
  rw [Op.bind_apply, Op.bind_apply, ← hfirst p hp]
  rcases h : first p with ⟨f | _, p'⟩
  · rfl
  · rw [h] at hdepth
    exact hrest p' hdepth

variable (hsame : ∀ parent assertions,
  Step.Same d (nested parent assertions) (nested' parent assertions))
include hsame

theorem Step.Same.take (parent : String) (x : Action) :
    Step.Same d (x.takeWith nested disk t parent) (x.takeWith nested' disk t parent) := by
  intro p hp
  cases x with
  | assert assertions => exact hsame parent assertions p hp
  | unset | fail | copyFile | unrecognised => rfl

variable (hfollows : ∀ parent assertions,
  Step.Follows disk t d (.action parent (.assert assertions)) (nested parent assertions))
include hfollows

theorem Step.Same.takeAll (parent : String) (xs : List Action) :
    Step.Same d (takeAll (Action.takeWith nested disk t parent) xs)
      (takeAll (Action.takeWith nested' disk t parent) xs) := by
  induction xs with
  | nil => exact fun _ _ => rfl
  | cons x xs ih => exact (Step.Same.take hsame parent x).bind (.take hfollows parent x) ih

theorem Step.Same.reported (group name : String) (a : Assertion) :
    Step.Same d (a.reportedWith nested disk t group name)
      (a.reportedWith nested' disk t group name) := by
  intro p hp
  unfold Assertion.reportedWith Assertion.evaluateWith
  have hcheck : (Step.ofOp (a.condition.check disk t)
      (p.report (.started group name))).2.depth = d := hp
  rcases hc : Step.ofOp (a.condition.check disk t) (p.report (.started group name)) with
    ⟨f | holds, p'⟩
  · rfl
  · rw [hc] at hcheck
    cases holds with
    | true => rfl
    | false =>
      simp only [Step.Same.takeAll hsame hfollows (nestedName group name) a.actions p' hcheck]

theorem Step.Same.all (group : String) (as : List (String × Assertion)) :
    Step.Same d (evaluateAllWith nested disk t group as)
      (evaluateAllWith nested' disk t group as) := by
  induction as with
  | nil => exact fun _ _ => rfl
  | cons first as ih =>
    obtain ⟨name, a⟩ := first
    rw [evaluateAllWith_cons, evaluateAllWith_cons]
    exact (Step.Same.reported hsame hfollows group name a).bind
      (.reported hfollows group name a) ih

end Levels

theorem Step.Same.tooDeep {d : Nat} (hd : maxNesting ≤ d) (levels levels' : Nat) (parent : String)
    (assertions : Named Assertion) :
    Step.Same d (evaluateNested disk t levels parent assertions)
      (evaluateNested disk t levels' parent assertions) := by
  intro p hp
  have hdeep : maxNesting ≤ p.depth := by omega
  have hrefused (levels : Nat) : evaluateNested disk t levels parent assertions p =
      (.error (.nestingTooDeep maxNesting), p) := by
    cases levels with
    | zero => rfl
    | succ levels => exact if_pos hdeep
  rw [hrefused, hrefused]

/-- The depth decides: as long as there are enough levels, it does not matter how many. -/
theorem Step.Same.levels {d levels levels' : Nat} (hd : maxNesting ≤ d + levels)
    (hd' : maxNesting ≤ d + levels') (parent : String) (assertions : Named Assertion) :
    Step.Same d (evaluateNested disk t levels parent assertions)
      (evaluateNested disk t levels' parent assertions) := by
  induction levels generalizing d levels' parent assertions with
  | zero => exact .tooDeep hd 0 levels' parent assertions
  | succ levels ih =>
    cases levels' with
    | zero => exact .tooDeep hd' _ 0 parent assertions
    | succ levels' =>
      intro p hp
      have hsets : ∀ parent assertions,
          Step.Same (d + 1) (evaluateNested disk t levels parent assertions)
            (evaluateNested disk t levels' parent assertions) :=
        fun parent assertions => ih (by omega) (by omega) parent assertions
      have hinner : Step.Same (d + 1)
          (evaluateAllWith (evaluateNested disk t levels) disk t parent (sorted assertions))
          (evaluateAllWith (evaluateNested disk t levels') disk t parent (sorted assertions)) :=
        .all hsets (Step.Follows.evaluateNested (by omega)) parent (sorted assertions)
      have hdepth : ({ p with depth := p.depth + 1 } : Progress σ).depth = d + 1 := by rw [← hp]
      simp only [evaluateNested, Step.deeper, hinner _ hdepth]

/-- Short of the limit, a nested set is evaluated one level deeper. -/
theorem Action.take_assert {p : Progress σ} (hp : p.depth < maxNesting) (parent : String)
    (assertions : Named Assertion) :
    (Action.assert assertions).take disk t parent p =
      ((evaluateAll disk t parent assertions { p with depth := p.depth + 1 }).1,
        { (evaluateAll disk t parent assertions { p with depth := p.depth + 1 }).2 with
          depth := p.depth }) := by
  have hdepth : (evaluateAll disk t parent assertions { p with depth := p.depth + 1 }).2.depth =
      p.depth + 1 := evaluateAll_depth parent assertions _
  have hsame : Step.Same p.depth (evaluateNested disk t maxNesting parent assertions)
      (evaluateNested disk t (maxNesting + 1) parent assertions) :=
    .levels (by omega) (by omega) parent assertions
  have htake : (Action.assert assertions).take disk t parent p =
      Step.deeper (evaluateAll disk t parent assertions) p := by
    refine (hsame p rfl).trans ?_
    rw [evaluateNested]
    exact if_neg (by omega)
  rw [htake]
  unfold Step.deeper
  simp only [hdepth, Nat.add_sub_cancel]

/-- At the limit, a nested set is refused, and nothing is done. -/
theorem Action.take_tooDeep {p : Progress σ} (hp : maxNesting ≤ p.depth) (parent : String)
    (assertions : Named Assertion) :
    (Action.assert assertions).take disk t parent p =
      (.error (.nestingTooDeep maxNesting), p) :=
  if_pos hp

end Steps

/-! ### Actions by the sets around them -/

/-- Every action that was dispatched, with the number of nested sets that it lies in, if the record
itself lies in `d` of them. -/
def Record.reached (d : Nat) : Record → List (Nat × Action)
  | .nothing => []
  | .assertion _ _ _ _ remedy _ rest => remedy.reached d ++ rest.reached d
  | .action _ x within _ rest => (d, x) :: within.reached (d + 1) ++ rest.reached d

@[simp] theorem Record.reached_append (d : Nat) (first after : Record) :
    (first ++ after).reached d = first.reached d ++ after.reached d := by
  induction first with
  | nothing => rfl
  | assertion group name a answer remedy e rest _ ih => simp [reached, ih]
  | action parent x within result rest _ ih => simp [reached, ih]

/-- A set was to be evaluated that lies in as many others as there may be. -/
def Record.Overreaches (d : Nat) (record : Record) : Prop :=
  ∃ inner, (maxNesting, .assert inner) ∈ record.reached d

mutual

/-- How many sets are within one another in a task. -/
def Task.nesting : Task → Nat
  | .assertion _ _ a => a.nesting
  | .action _ x => x.nesting
  | .inTurn tasks => tasksNesting tasks

def tasksNesting : List Task → Nat
  | [] => 0
  | task :: tasks => max task.nesting (tasksNesting tasks)

end

theorem tasksNesting_le {tasks : List Task} {n : Nat} (h : ∀ task ∈ tasks, task.nesting ≤ n) :
    tasksNesting tasks ≤ n := by
  induction tasks with
  | nil => exact Nat.zero_le n
  | cons task tasks ih =>
    have htask := h task (.head tasks)
    have htasks := ih fun task' htask' => h task' (.tail task htask')
    rw [tasksNesting]
    omega

theorem Task.set_nesting_le (group : String) (assertions : Named Assertion) :
    (Task.set group assertions).nesting ≤ assertionsNesting assertions := by
  unfold set nesting
  apply tasksNesting_le
  intro task htask
  obtain ⟨⟨name, a⟩, ha, rfl⟩ := List.mem_map.mp htask
  have hmem : (name, a) ∈ assertions := (sorted_perm assertions).mem_iff.mp ha
  exact Assertion.nesting_le_of_mem hmem

theorem Task.remedy_nesting_le (group name : String) (a : Assertion) :
    (Task.remedy group name a).nesting ≤ a.nesting := by
  unfold remedy nesting
  apply tasksNesting_le
  intro task htask
  obtain ⟨x, hx, rfl⟩ := List.mem_map.mp htask
  rw [a.nesting_eq]
  exact Action.nesting_le_of_mem hx

theorem Task.groups_nesting_le {gs : List Group} {n : Nat} (h : ∀ g ∈ gs, g.nesting ≤ n) :
    (Task.groups gs).nesting ≤ n := by
  unfold groups nesting
  apply tasksNesting_le
  intro task htask
  obtain ⟨g, hg, rfl⟩ := List.mem_map.mp htask
  have hset := Task.set_nesting_le g.name g.assertions
  have hgroup := h g hg
  unfold Group.nesting at hgroup
  omega

section Records

variable {disk : σ → Disk} {t : Target σ} {d : Nat} {task : Task} {s s' : σ} {record : Record}
  {r : Except Fault Unit}

/-- No set lies in more sets than the task has within one another. -/
theorem Recorded.lt_of_reached (h : Recorded disk t d task s record r s') {k : Nat}
    {inner : Named Assertion} (hk : (k, .assert inner) ∈ record.reached d) :
    k < d + task.nesting := by
  induction h with
  | done | unanswered _ | holds _ => cases hk
  | next _ _ ihFirst ihRest =>
    rw [Record.reached_append] at hk
    rw [Task.nesting, tasksNesting]
    rcases List.mem_append.mp hk with hk | hk
    · have hlt := ihFirst hk
      omega
    · have hlt := ihRest hk
      rw [Task.nesting] at hlt
      omega
  | stop _ ih =>
    have hlt := ih hk
    rw [Task.nesting, tasksNesting]
    omega
  | @remedied _ group name a _ _ _ _ _ _ _ ih =>
    simp only [Record.reached, List.append_nil] at hk
    have hlt := ih hk
    have hle := Task.remedy_nesting_le group name a
    rw [Task.nesting]
    omega
  | unset | fail | copied _ | notCopied _ | unrecognised => simp [Record.reached] at hk
  | @nested _ parent assertions _ _ _ _ _ _ ih =>
    have hle := Task.set_nesting_le parent assertions
    rw [Task.nesting, Action.nesting]
    simp only [Record.reached, List.append_nil] at hk
    rcases List.mem_cons.mp hk with hk | hk
    · cases hk
      omega
    · have hlt := ih hk
      omega
  | tooDeep _ =>
    simp only [Record.reached, List.append_nil, List.mem_singleton] at hk
    cases hk
    rw [Task.nesting, Action.nesting]
    omega

/-- A set that lies too deep is refused. -/
theorem Recorded.refused (h : Recorded disk t d task s record r s') (hover : record.Overreaches d) :
    r = .error (.nestingTooDeep maxNesting) := by
  obtain ⟨inner, hk⟩ := hover
  induction h with
  | done | unanswered _ | holds _ => cases hk
  | next _ _ ihFirst ihRest =>
    rw [Record.reached_append] at hk
    rcases List.mem_append.mp hk with hk | hk
    · cases ihFirst hk
    · exact ihRest hk
  | stop _ ih => exact ih hk
  | remedied _ _ ih =>
    simp only [Record.reached, List.append_nil] at hk
    exact ih hk
  | unset | fail | copied _ | notCopied _ | unrecognised => simp [Record.reached] at hk
  | nested hd _ ih =>
    simp only [Record.reached, List.append_nil] at hk
    rcases List.mem_cons.mp hk with hk | hk
    · cases hk
      omega
    · exact ih hk
  | tooDeep _ => rfl

/-- Nothing else is refused for that reason. -/
theorem Recorded.overreaches (h : Recorded disk t d task s record r s') (hd : d ≤ maxNesting)
    {n : Nat} (hr : r = .error (.nestingTooDeep n)) :
    t.Raises (.nestingTooDeep n) ∨ (n = maxNesting ∧ record.Overreaches d) := by
  have hmono {first rest : Record} {d : Nat}
      (hreached : ∀ x ∈ first.reached d, x ∈ rest.reached d) :
      first.Overreaches d → rest.Overreaches d := by
    rintro ⟨inner, hinner⟩
    exact ⟨inner, hreached _ hinner⟩
  induction h with
  | done | holds _ | unset | copied _ | fail | unrecognised => cases hr
  | next _ _ _ ihRest =>
    refine (ihRest hd hr).imp_right (And.imp_right (hmono fun x hx => ?_))
    rw [Record.reached_append]
    exact List.mem_append_right _ hx
  | stop _ ih => exact ih hd hr
  | unanswered hc =>
    cases hr
    rcases Condition.check_error hc with hraises | ⟨_, hdigest⟩ | ⟨_, _, hkind⟩
    · exact Or.inl hraises
    · have hno := Disk.digest_isMalformed hdigest
      cases hno
    · cases hkind
  | remedied _ _ ih =>
    refine (ih hd hr).imp_right (And.imp_right (hmono fun x hx => ?_))
    exact List.mem_append_left _ hx
  | notCopied hc =>
    cases hr
    rcases deliver_error hc with hraises | ⟨_, hio⟩
    · exact Or.inl hraises
    · cases hio
  | nested hlt _ ih =>
    rcases ih (by omega) hr with hraises | ⟨hn, inner, hinner⟩
    · exact Or.inl hraises
    · refine Or.inr ⟨hn, inner, ?_⟩
      exact List.mem_append_left _ (.tail _ hinner)
  | @tooDeep d parent assertions s hle =>
    cases hr
    have heq : d = maxNesting := by omega
    refine Or.inr ⟨rfl, assertions, ?_⟩
    rw [heq]
    exact List.mem_append_left _ (.head _)

end Records

/-! ### Runs -/

section Runs

variable {disk : σ → Disk} {connector : Connector σ} {groups : List Group} {s s' : σ}
  {stay : Stay σ}

theorem Tour.error_of_fault {machines : List (String × Machine)} {stays : List (Stay σ)}
    {r : Except Fault Unit} (h : Tour disk connector groups machines s stays r s')
    (hstay : stay ∈ stays) {f : Fault} (hf : stay.fault = some f) : r = .error f := by
  induction h with
  | done => cases hstay
  | next _ _ hnone _ ih =>
    rcases List.mem_cons.mp hstay with rfl | hstay
    · rw [hnone] at hf
      cases hf
    · exact ih hstay
  | stop _ _ hsome =>
    obtain rfl := List.mem_singleton.mp hstay
    rw [hsome] at hf
    cases hf
    rfl

theorem Stay.Happened.refused_of_overreaches (h : stay.Happened disk connector groups s s')
    (hover : stay.record.Overreaches 0) : stay.fault = some (.nestingTooDeep maxNesting) := by
  cases h with
  | refused _ =>
    obtain ⟨inner, hinner⟩ := hover
    cases hinner
  | served _ hrec _ =>
    obtain rfl := hrec.refused hover
    rfl

theorem Stay.Happened.not_overreaches (h : stay.Happened disk connector groups s s')
    (hgroups : ∀ g ∈ groups, g.nesting ≤ maxNesting) : ¬ stay.record.Overreaches 0 := by
  rintro ⟨inner, hinner⟩
  cases h with
  | refused _ => cases hinner
  | served _ hrec _ =>
    have hlt := hrec.lt_of_reached hinner
    have hle := Task.groups_nesting_le hgroups
    omega

end Runs

/-- What a run makes of sets that nest too deep: it ends at the first of them, and unless machines
raise that fault themselves, it is found in no other run. -/
structure Plan.Limited (plan : Plan) (connector : Connector σ) (stays : List (Stay σ))
    (es : List Event) (r : Except Fault Unit) : Prop where
  refused : (∃ stay ∈ stays, stay.record.Overreaches 0) → r = .error (.nestingTooDeep maxNesting)
  only : ∀ n, Carried es r (.nestingTooDeep n) → connector.Raises (.nestingTooDeep n) ∨
    (n = maxNesting ∧ ∃ stay ∈ stays, stay.record.Overreaches 0)
  produced_iff : (∀ n, ¬ connector.Raises (.nestingTooDeep n)) → ∀ n,
    Carried es r (.nestingTooDeep n) ↔
      n = maxNesting ∧ ∃ stay ∈ stays, stay.record.Overreaches 0
  never : (∀ g ∈ plan.groups, g.nesting ≤ maxNesting) → ∀ n,
    Carried es r (.nestingTooDeep n) → connector.Raises (.nestingTooDeep n)

theorem Tour.limited {plan : Plan} {disk : σ → Disk} {connector : Connector σ} {s s' : σ}
    {stays : List (Stay σ)} {r : Except Fault Unit}
    (h : Tour disk connector plan.groups plan.fleet.machines s stays r s') :
    plan.Limited connector stays (stays.flatMap Stay.events) r := by
  have hrefused : (∃ stay ∈ stays, stay.record.Overreaches 0) →
      r = .error (.nestingTooDeep maxNesting) := by
    rintro ⟨stay, hstay, hover⟩
    obtain ⟨_, _, hhappened⟩ := h.happened hstay
    exact h.error_of_fault hstay (hhappened.refused_of_overreaches hover)
  have honly : ∀ n, Carried (stays.flatMap Stay.events) r (.nestingTooDeep n) →
      connector.Raises (.nestingTooDeep n) ∨
        (n = maxNesting ∧ ∃ stay ∈ stays, stay.record.Overreaches 0) := by
    intro n hcarried
    obtain ⟨stay, hstay, hcarried⟩ := h.carried hcarried
    obtain ⟨_, _, hhappened⟩ := h.happened hstay
    rcases hhappened.carried hcarried with hraises | ⟨t, _, _, hraises, hrec⟩
    · exact Or.inl hraises
    · rcases hrec.overreaches (Nat.zero_le _) rfl with ht | ⟨hn, hover⟩
      · exact Or.inl (hraises ht)
      · exact Or.inr ⟨hn, stay, hstay, hover⟩
  refine ⟨hrefused, honly, ?_, ?_⟩
  · intro hraises n
    constructor
    · intro hcarried
      exact (honly n hcarried).resolve_left (hraises n)
    · rintro ⟨rfl, hover⟩
      exact Or.inr (hrefused hover)
  · intro hgroups n hcarried
    rcases honly n hcarried with hraises | ⟨-, stay, hstay, hover⟩
    · exact hraises
    · obtain ⟨_, _, hhappened⟩ := h.happened hstay
      exact absurd hover (hhappened.not_overreaches hgroups)

/-- Actions and assertions leave the depth as it was, and only sets lie one level deeper; at the
limit they are refused untouched. So a run comes upon the limit where a set lies in as many others
as there may be, whatever has been evaluated before it. -/
theorem nesting_limited (disk : σ → Disk) :
    (∀ (t : Target σ) (p : Progress σ),
      (∀ parent (x : Action), (x.take disk t parent p).2.depth = p.depth) ∧
      (∀ group name (a : Assertion), (a.evaluate disk t group name p).2.depth = p.depth) ∧
      (p.depth < maxNesting → ∀ parent assertions,
        (Action.assert assertions).take disk t parent p =
          ((evaluateAll disk t parent assertions { p with depth := p.depth + 1 }).1,
            { (evaluateAll disk t parent assertions { p with depth := p.depth + 1 }).2 with
              depth := p.depth })) ∧
      (maxNesting ≤ p.depth → ∀ parent assertions,
        (Action.assert assertions).take disk t parent p =
          (.error (.nestingTooDeep maxNesting), p))) ∧
    (∀ (connector : Connector σ) (plan : Plan) (s : σ), ∃ stays,
      Tour disk connector plan.groups plan.fleet.machines s stays (plan.run disk connector s).1
        (plan.run disk connector s).2.world ∧
      plan.Limited connector stays (plan.run disk connector s).2.events
        (plan.run disk connector s).1) := by
  constructor
  · intro t p
    refine ⟨?_, ?_, ?_, ?_⟩
    · intro parent x
      exact x.take_depth parent p
    · intro group name a
      exact a.evaluate_depth group name p
    · intro hp parent assertions
      exact Action.take_assert hp parent assertions
    · intro hp parent assertions
      exact Action.take_tooDeep hp parent assertions
  · intro connector plan s
    obtain ⟨stays, htour, hevents⟩ := plan.run_tours disk connector s
    refine ⟨stays, htour, ?_⟩
    rw [hevents]
    exact htour.limited

def chained (n : Nat) : Plan := ⟨⟨"one", [("a", {})]⟩, [⟨"deep", chain n⟩]⟩

def atDepth (d : Nat) : Progress Site := { world := bareSite, depth := d }

theorem chained_limited :
    ((atDepth 15).depth < maxNesting ∧
      ((Action.assert (chain 0)).take Site.disk (Site.target .literal "a") "deep" (atDepth 15)).1 =
        (evaluateAll Site.disk (Site.target .literal "a") "deep" (chain 0) (atDepth 16)).1) ∧
    (maxNesting ≤ (atDepth 16).depth ∧
      (Action.assert (chain 0)).take Site.disk (Site.target .literal "a") "deep" (atDepth 16) =
        (.error (.nestingTooDeep maxNesting), atDepth 16)) ∧
    (∀ n, ¬ (Site.connector .literal).Raises (.nestingTooDeep n)) ∧
    (∃ stays s', Tour Site.disk (Site.connector .literal) (chained 17).groups
      (chained 17).fleet.machines bareSite stays (.error (.nestingTooDeep maxNesting)) s' ∧
      ∃ stay ∈ stays, stay.record.Overreaches 0) ∧
    (∀ g ∈ (chained 16).groups, g.nesting ≤ maxNesting) ∧
    ∀ n, ¬ Carried ((chained 16).run Site.disk (Site.connector .literal) bareSite).2.events
      ((chained 16).run Site.disk (Site.connector .literal) bareSite).1 (.nestingTooDeep n) := by
  have hraises : ∀ n, ¬ (Site.connector .literal).Raises (.nestingTooDeep n) := by
    intro n h
    cases Site.connector_fault h
  have hshallow : ∀ g ∈ (chained 16).groups, g.nesting ≤ maxNesting := by
    intro g hg
    obtain rfl := List.mem_singleton.mp hg
    rw [Group.nesting, chain_nesting]
    decide
  have hresult : ((chained 17).run Site.disk (Site.connector .literal) bareSite).1 =
      .error (.nestingTooDeep maxNesting) := by
    decide +kernel
  obtain ⟨hsteps, hruns⟩ := nesting_limited Site.disk
  obtain ⟨-, -, hnested, -⟩ := hsteps (Site.target .literal "a") (atDepth 15)
  obtain ⟨-, -, -, hrefused⟩ := hsteps (Site.target .literal "a") (atDepth 16)
  obtain ⟨stays, htour, hdeep⟩ := hruns (Site.connector .literal) (chained 17) bareSite
  obtain ⟨_, -, hwhole⟩ := hruns (Site.connector .literal) (chained 16) bareSite
  rw [hresult] at htour hdeep
  refine ⟨⟨by decide, ?_⟩, ⟨by decide, ?_⟩, hraises, ⟨stays, _, htour, ?_⟩, hshallow, ?_⟩
  · rw [hnested (by decide)]
    rfl
  · exact hrefused (by decide) "deep" (chain 0)
  · exact ((hdeep.produced_iff hraises maxNesting).mp (Or.inr rfl)).2
  · intro n hcarried
    exact hraises n (hwhole.never hshallow n hcarried)

end Upkeep
