import Upkeep.Proofs.Brackets
import Upkeep.Proofs.Raises
import Upkeep.Proofs.Tour

/-!
What outcomes and faults mean. The outcome of every assertion, at whatever depth, says how its check
and its actions went; the fault of an assertion is that of all assertions around it and of the run;
and a run gives up for a failed assertion if and only if a FAIL action was what it did last.
-/

set_option autoImplicit false

namespace Upkeep

variable {σ : Type}

/-! ### What a record says -/

/-- An assertion with what its check answered, what was done then, and how it came out. -/
structure Verdict where
  group : String
  name : String
  assertion : Assertion
  answer : Except Fault Bool
  remedy : Record
  evaluation : Evaluation

/-- An action that has been dispatched, with what was done within it, and how it ended. -/
structure Deed where
  parent : String
  action : Action
  within : Record
  result : Except Fault Unit

namespace Verdict

def event (v : Verdict) : Event := .ended v.group v.name v.evaluation

abbrev toRecord (v : Verdict) : Record :=
  .ofAssertion v.group v.name v.assertion v.answer v.remedy v.evaluation

end Verdict

namespace Record

/-- All assertions, at whatever depth, in the order in which they ended. -/
def verdicts : Record → List Verdict
  | .nothing => []
  | .assertion group name a answer remedy e rest =>
    remedy.verdicts ++ ⟨group, name, a, answer, remedy, e⟩ :: rest.verdicts
  | .action _ _ within _ rest => within.verdicts ++ rest.verdicts

/-- The actions, without those within others. -/
def deeds : Record → List Deed
  | .nothing => []
  | .assertion _ _ _ _ _ _ rest => rest.deeds
  | .action parent x within result rest => ⟨parent, x, within, result⟩ :: rest.deeds

/-- All actions, at whatever depth, in the order in which they were dispatched. -/
def dispatched : Record → List Action
  | .nothing => []
  | .assertion _ _ _ _ remedy _ rest => remedy.dispatched ++ rest.dispatched
  | .action _ x within _ rest => x :: within.dispatched ++ rest.dispatched

@[simp] theorem verdicts_append (first after : Record) :
    (first ++ after).verdicts = first.verdicts ++ after.verdicts := by
  induction first with
  | nothing => rfl
  | assertion group name a answer remedy e rest _ ih => simp [verdicts, ih]
  | action parent x within result rest _ ih => simp [verdicts, ih]

@[simp] theorem deeds_append (first after : Record) :
    (first ++ after).deeds = first.deeds ++ after.deeds := by
  induction first with
  | nothing => rfl
  | assertion group name a answer remedy e rest _ ih => simp [deeds, ih]
  | action parent x within result rest _ ih => simp [deeds, ih]

@[simp] theorem dispatched_append (first after : Record) :
    (first ++ after).dispatched = first.dispatched ++ after.dispatched := by
  induction first with
  | nothing => rfl
  | assertion group name a answer remedy e rest _ ih => simp [dispatched, ih]
  | action parent x within result rest _ ih => simp [dispatched, ih]

end Record

def Event.isFinal : Event → Bool
  | .assertion _ _ (some _) _ => true
  | _ => false

@[simp] theorem Event.isFinal_started (group name : String) :
    (Event.started group name).isFinal = false := rfl

@[simp] theorem Event.isFinal_ended (group name : String) (e : Evaluation) :
    (Event.ended group name e).isFinal = true := rfl

theorem Record.finals (record : Record) :
    record.events.filter Event.isFinal = record.verdicts.map Verdict.event := by
  induction record with
  | nothing => rfl
  | assertion group name a answer remedy e rest ihRemedy ih =>
    simp [events, verdicts, ihRemedy, ih, Verdict.event, List.filter_cons]
  | action parent x within result rest ihWithin ih => simp [events, verdicts, ihWithin, ih]

theorem Record.event_of_verdict {record : Record} {v : Verdict} (hv : v ∈ record.verdicts) :
    v.event ∈ record.events := by
  have hfinal : v.event ∈ record.events.filter Event.isFinal := by
    rw [record.finals]
    exact List.mem_map_of_mem hv
  exact (List.mem_filter.mp hfinal).1

/-! ### Parts of runs -/

/-- Every verdict in the record of a run is that of a run of its assertion. -/
theorem Recorded.of_verdict {disk : σ → Disk} {t : Target σ} {d : Nat} {task : Task} {s s' : σ}
    {record : Record} {r : Except Fault Unit} (h : Recorded disk t d task s record r s')
    {v : Verdict} (hv : v ∈ record.verdicts) :
    ∃ d₀ s₀ r₀ s₁,
      Recorded disk t d₀ (.assertion v.group v.name v.assertion) s₀ v.toRecord r₀ s₁ := by
  induction h with
  | done | unset | fail | copied | notCopied | tooDeep | unrecognised =>
    simp [Record.verdicts] at hv
  | next _ _ ihFirst ihRest =>
    rw [Record.verdicts_append] at hv
    exact (List.mem_append.mp hv).elim ihFirst ihRest
  | stop _ ih => exact ih hv
  | unanswered hc =>
    obtain rfl := List.mem_singleton.mp hv
    exact ⟨0, _, _, _, .unanswered hc⟩
  | holds hc =>
    obtain rfl := List.mem_singleton.mp hv
    exact ⟨0, _, _, _, .holds hc⟩
  | remedied hc hrec ih =>
    rcases List.mem_append.mp hv with hv | hv
    · exact ih hv
    · obtain rfl := List.mem_singleton.mp hv
      exact ⟨_, _, _, _, .remedied hc hrec⟩
  | nested _ _ ih => exact ih (by simpa [Record.verdicts] using hv)

theorem Recorded.result_of_verdict {disk : σ → Disk} {t : Target σ} {d : Nat} {task : Task}
    {s s' : σ} {record : Record} {r : Except Fault Unit}
    (h : Recorded disk t d task s record r s') {v : Verdict} (hv : v ∈ record.verdicts) {f : Fault}
    (hf : v.evaluation.fault = some f) : r = .error f :=
  h.bracketed.result_of_fault (Record.event_of_verdict hv) hf

/-! ### Actions of an assertion -/

theorem Recorded.deeds_of_action {disk : σ → Disk} {t : Target σ} {d : Nat} {parent : String}
    {x : Action} {s s' : σ} {record : Record} {r : Except Fault Unit}
    (h : Recorded disk t d (.action parent x) s record r s') :
    ∃ within, record.deeds = [⟨parent, x, within, r⟩] := by
  cases h <;> exact ⟨_, rfl⟩

/-- What was dispatched of a list of actions is as much as was reached, and fails as the whole. -/
theorem Recorded.deeds {disk : σ → Disk} {t : Target σ} {d : Nat} {parent : String}
    {xs : List Action} {s s' : σ} {record : Record} {r : Except Fault Unit}
    (h : Recorded disk t d (.inTurn (xs.map (.action parent))) s record r s') :
    record.deeds.map Deed.action <+: xs ∧
      (r = .ok () → record.deeds.map Deed.action = xs) ∧
      ∀ f, r = .error f ↔ ∃ x ∈ record.deeds, x.result = .error f := by
  induction xs generalizing s record with
  | nil =>
    cases h
    simp [Record.deeds]
  | cons x xs ih =>
    cases h with
    | next hfirst hrest =>
      obtain ⟨within, hdeeds⟩ := hfirst.deeds_of_action
      obtain ⟨hreached, hall, hfault⟩ := ih hrest
      simp only [Record.deeds_append, hdeeds, List.cons_append, List.nil_append, List.map_cons]
      refine ⟨(List.prefix_cons_inj x).mpr hreached, fun hr => by rw [hall hr], fun f => ?_⟩
      simp [hfault f]
    | stop hfirst =>
      obtain ⟨within, hdeeds⟩ := hfirst.deeds_of_action
      simp only [hdeeds]
      refine ⟨(List.prefix_cons_inj x).mpr List.nil_prefix, fun hr => by simp at hr, fun f => ?_⟩
      simp

/-- The outcome and the fault of an assertion are those that its check and its actions call for. -/
structure Verdict.Fits (v : Verdict) : Prop where
  /-- Without a fault, there was nothing to do or all of it has been done. -/
  quiet : v.evaluation.fault = none ↔
    v.evaluation.outcome = .noop ∨ v.evaluation.outcome = .applied
  unchecked : v.evaluation.outcome = .error ↔ ∃ f, v.answer = .error f
  unchanged : ∀ f, v.answer = .error f → v.evaluation.fault = some f
  failed : v.evaluation.outcome = .failed ↔
    ∃ x ∈ v.remedy.deeds, x.result = .error .assertionsFailed
  notApplied : v.evaluation.outcome = .applyError ↔
    ∃ x ∈ v.remedy.deeds, ∃ f, x.result = .error f ∧ f ≠ .assertionsFailed
  /-- The actions are those of the assertion, in its order, as far as they were reached. -/
  actions : v.remedy.deeds.map Deed.action <+: v.assertion.actions

theorem Outcome.ofFault_eq_failed {f : Fault} :
    Outcome.ofFault f = .failed ↔ f = .assertionsFailed := by
  cases f <;> simp [Outcome.ofFault, Fault.isAssertionFailure]

theorem Outcome.ofFault_eq_applyError {f : Fault} :
    Outcome.ofFault f = .applyError ↔ f ≠ .assertionsFailed := by
  cases f <;> simp [Outcome.ofFault, Fault.isAssertionFailure]

theorem Recorded.fits {disk : σ → Disk} {t : Target σ} {d : Nat} {s s' : σ} {v : Verdict}
    {r : Except Fault Unit}
    (h : Recorded disk t d (.assertion v.group v.name v.assertion) s v.toRecord r s') : v.Fits := by
  obtain ⟨group, name, a, answer, remedy, e⟩ := v
  cases h with
  | unanswered _ =>
    exact ⟨by simp, by simp, by simp, by simp [Record.deeds], by simp [Record.deeds],
      List.nil_prefix⟩
  | holds _ =>
    exact ⟨by simp, by simp, by simp, by simp [Record.deeds], by simp [Record.deeds],
      List.nil_prefix⟩
  | remedied _ hremedy =>
    obtain ⟨hreached, -, hfault⟩ := Recorded.deeds hremedy
    cases r with
    | ok =>
      have hnone : ∀ x ∈ remedy.deeds, ∀ f, x.result ≠ .error f := fun x hx f hf => by
        simpa using (hfault f).mpr ⟨x, hx, hf⟩
      refine ⟨by simp, by simp, by simp, ?_, ?_, hreached⟩
      · simpa using fun x hx => hnone x hx _
      · simpa using fun x hx f hf => absurd hf (hnone x hx f)
    | error f =>
      -- Every action that failed has failed as the whole, so all with the same fault.
      have hsame : ∀ x ∈ remedy.deeds, ∀ f', x.result = .error f' → f' = f := fun x hx f' hf' => by
        simpa using ((hfault f').mpr ⟨x, hx, hf'⟩).symm
      obtain ⟨x, hx, hxf⟩ := (hfault f).mp rfl
      refine ⟨?_, ?_, by simp, ?_, ?_, hreached⟩
      · cases f <;> simp [Outcome.ofFault, Fault.isAssertionFailure]
      · cases f <;> simp [Outcome.ofFault, Fault.isAssertionFailure]
      · exact Outcome.ofFault_eq_failed.trans (by rw [← hfault, Except.error.injEq])
      · refine Outcome.ofFault_eq_applyError.trans ⟨fun hf => ⟨x, hx, f, hxf, hf⟩, ?_⟩
        rintro ⟨x', hx', f', hf', hne⟩
        rwa [← hsame x' hx' f' hf']

theorem Recorded.fault_of_error {disk : σ → Disk} {t : Target σ} {d : Nat} {s s' : σ} {v : Verdict}
    {f : Fault}
    (h : Recorded disk t d (.assertion v.group v.name v.assertion) s v.toRecord (.error f) s') :
    v.evaluation.fault = some f := by
  obtain ⟨group, name, a, answer, remedy, e⟩ := v
  cases h <;> rfl

/-! ### The sentinel -/

/-- The fault for failed assertions comes from FAIL actions only. -/
theorem Recorded.sentinel {disk : σ → Disk} {t : Target σ} (ht : ¬ t.Raises .assertionsFailed)
    {d : Nat} {task : Task} {s s' : σ} {record : Record} {r : Except Fault Unit}
    (h : Recorded disk t d task s record r s') :
    r = .error .assertionsFailed ↔ record.dispatched.getLast? = some .fail := by
  induction h with
  | done | holds => simp [Record.dispatched]
  | next _ _ ihFirst ihRest =>
    rw [Record.dispatched_append, List.getLast?_append, Option.or_eq_some_iff, ihRest, ← ihFirst]
    simp
  | stop _ ih => exact ih
  | unanswered hc =>
    refine iff_of_false ?_ (by simp [Record.dispatched])
    rintro ⟨⟩
    exact Condition.check_ne ht hc
  | remedied _ _ ih => simpa [Record.dispatched] using ih
  | unset | fail | copied | tooDeep | unrecognised => simp [Record.dispatched]
  | notCopied hc =>
    refine iff_of_false ?_ (by simp [Record.dispatched])
    rintro ⟨⟩
    exact deliver_ne ht hc
  | nested _ _ ih =>
    -- An action within comes after the one it is within, which is no FAIL action itself.
    rw [ih]
    simp only [Record.dispatched, List.append_nil, List.getLast?_cons]
    cases hlast : (Record.dispatched _).getLast? with
    | none => simp
    | some x => simp

/-! ### All of it -/

/-- Every assertion of the record has come out as it should, with the fault of all those around it
and of the whole, and the whole has failed if and only if it was made to. -/
structure Record.Sound (record : Record) (r : Except Fault Unit) : Prop where
  fits : ∀ v ∈ record.verdicts, v.Fits
  around : ∀ v ∈ record.verdicts, ∀ w ∈ v.remedy.verdicts, ∀ f,
    w.evaluation.fault = some f → v.evaluation.fault = some f
  returned : ∀ v ∈ record.verdicts, ∀ f, v.evaluation.fault = some f → r = .error f
  sentinel : r = .error .assertionsFailed ↔ record.dispatched.getLast? = some .fail

theorem Recorded.sound {disk : σ → Disk} {t : Target σ} (ht : ¬ t.Raises .assertionsFailed)
    {d : Nat} {task : Task} {s s' : σ} {record : Record} {r : Except Fault Unit}
    (h : Recorded disk t d task s record r s') : record.Sound r where
  fits v hv := by
    obtain ⟨_, _, _, _, hrun⟩ := h.of_verdict hv
    exact hrun.fits
  around v hv w hw f hf := by
    obtain ⟨_, _, _, _, hrun⟩ := h.of_verdict hv
    obtain rfl := hrun.result_of_verdict (List.mem_append_left _ hw) hf
    exact hrun.fault_of_error
  returned v hv f hf := h.result_of_verdict hv hf
  sentinel := h.sentinel ht

namespace Record.Sound

variable {first record : Record} {r : Except Fault Unit}

theorem append (hfirst : first.Sound (.ok ())) (h : record.Sound r) :
    (first ++ record).Sound r where
  fits v hv := by
    rw [Record.verdicts_append] at hv
    exact (List.mem_append.mp hv).elim (hfirst.fits v) (h.fits v)
  around v hv := by
    rw [Record.verdicts_append] at hv
    exact (List.mem_append.mp hv).elim (hfirst.around v) (h.around v)
  returned v hv f hf := by
    rw [Record.verdicts_append] at hv
    rcases List.mem_append.mp hv with hv | hv
    · simpa using hfirst.returned v hv f hf
    · exact h.returned v hv f hf
  sentinel := by
    rw [Record.dispatched_append, List.getLast?_append, Option.or_eq_some_iff, ← h.sentinel,
      ← hfirst.sentinel]
    simp

theorem later (h : record.Sound (.ok ())) {f : Fault} (hf : f ≠ .assertionsFailed) :
    record.Sound (.error f) where
  fits := h.fits
  around := h.around
  returned v hv f' hf' := by simpa using h.returned v hv f' hf'
  sentinel := by
    rw [← h.sentinel]
    simp [hf]

theorem nothing : Record.Sound .nothing (.ok ()) := by
  constructor <;> simp [Record.verdicts, Record.dispatched]

end Record.Sound

/-! ### Over machines -/

def recordOf (stays : List (Stay σ)) : Record :=
  stays.foldr (fun stay rest => stay.record ++ rest) .nothing

@[simp] theorem recordOf_nil : recordOf ([] : List (Stay σ)) = .nothing := rfl

@[simp] theorem recordOf_cons (stay : Stay σ) (stays : List (Stay σ)) :
    recordOf (stay :: stays) = stay.record ++ recordOf stays := rfl

theorem Stay.finals (stay : Stay σ) :
    stay.events.filter Event.isFinal = stay.record.verdicts.map Verdict.event := by
  cases stay with
  | refused name m f => rfl
  | served name m t record evaluated released => exact record.finals

theorem recordOf_finals (stays : List (Stay σ)) :
    (stays.flatMap Stay.events).filter Event.isFinal =
      (recordOf stays).verdicts.map Verdict.event := by
  induction stays with
  | nil => rfl
  | cons stay stays ih => simp [List.filter_append, stay.finals, ih]

section Runs

variable {disk : σ → Disk} {connector : Connector σ} {groups : List Group} {s s' : σ}

theorem Stay.Happened.sound (hc : ¬ connector.Raises .assertionsFailed) {stay : Stay σ}
    (h : stay.Happened disk connector groups s s') : stay.record.Sound (resultOf stay.fault) := by
  cases h with
  | @refused _ _ f _ _ _ hconnect =>
    refine Record.Sound.nothing.later ?_
    rintro rfl
    exact hc (.connect hconnect)
  | @served _ _ t _ evaluated released _ _ _ _ _ hconnect hrec hclose =>
    have ht : ¬ t.Raises .assertionsFailed := fun hraises => hc (.target hconnect hraises)
    have hsound := hrec.sound ht
    cases evaluated with
    | error f => exact hsound
    | ok =>
      cases released with
      | ok => exact hsound
      | error f =>
        refine hsound.later ?_
        rintro rfl
        exact ht (.close hclose)

theorem Tour.sound (hc : ¬ connector.Raises .assertionsFailed)
    {machines : List (String × Machine)} {stays : List (Stay σ)} {r : Except Fault Unit}
    (h : Tour disk connector groups machines s stays r s') : (recordOf stays).Sound r := by
  induction h with
  | done => exact .nothing
  | next _ hstay hf _ ih =>
    have hsound := hstay.sound hc
    rw [hf] at hsound
    exact hsound.append ih
  | @stop _ _ _ _ stay _ _ hstay hf =>
    have hsound := hstay.sound hc
    rw [hf] at hsound
    simpa [resultOf] using hsound

end Runs

/-- Unless a target fails with the sentinel itself, every assertion comes out as its check and its
actions have gone, its fault is that of all that is around it, and the sentinel tells of a FAIL
action that was dispatched last. -/
theorem verdicts_sound (disk : σ → Disk) :
    (∀ t : Target σ, ¬ t.Raises .assertionsFailed →
      ∀ (group : String) (assertions : Named Assertion) (p : Progress σ), ∃ record,
        Recorded disk t p.depth (.set group assertions) p.world record
          (evaluateAll disk t group assertions p).1
          (evaluateAll disk t group assertions p).2.world ∧
        (evaluateAll disk t group assertions p).2.events = p.events ++ record.events ∧
        record.events.filter Event.isFinal = record.verdicts.map Verdict.event ∧
        record.Sound (evaluateAll disk t group assertions p).1) ∧
    (∀ connector : Connector σ, ¬ connector.Raises .assertionsFailed →
      ∀ (plan : Plan) (s : σ), ∃ stays,
        Tour disk connector plan.groups plan.fleet.machines s stays (plan.run disk connector s).1
          (plan.run disk connector s).2.world ∧
        (plan.run disk connector s).2.events.filter Event.isFinal =
          (recordOf stays).verdicts.map Verdict.event ∧
        (recordOf stays).Sound (plan.run disk connector s).1) := by
  constructor
  · intro t ht group assertions p
    obtain ⟨s, d, events, notes⟩ := p
    have hfollows : Step.Follows disk t d (.set group assertions) _ :=
      .evaluateAll group assertions
    obtain ⟨record, r, s', notes', hrec, hstep⟩ := hfollows s events notes
    rw [hstep]
    exact ⟨record, hrec, rfl, record.finals, hrec.sound ht⟩
  · intro connector hc plan s
    obtain ⟨stays, htour, hevents⟩ := plan.run_tours disk connector s
    exact ⟨stays, htour, by rw [hevents, recordOf_finals], htour.sound hc⟩

/-- A file that is missing, and a remedy that fails one level down. -/
def missing : Named Assertion :=
  [("motd", ⟨{ kind := .fileExists, filePath := "/etc/motd" }, none,
    [.assert [("issue", ⟨{ kind := .fileExists, filePath := "/etc/issue" }, none, [.fail]⟩)]]⟩)]

def relayed : Plan := ⟨⟨"one", [("a", {})]⟩, [⟨"base", missing⟩]⟩

def bareSite : Site := ⟨⟨[], [], ""⟩, [("a", {})]⟩

theorem relayed_sound :
    (¬ (Site.target .literal "a").Raises .assertionsFailed ∧ ∃ record s',
      Recorded Site.disk (Site.target .literal "a") 0 (.set "base" missing) bareSite record
        (evaluateAll Site.disk (Site.target .literal "a") "base" missing
          ⟨bareSite, 0, [], []⟩).1 s' ∧
      record.Sound
        (evaluateAll Site.disk (Site.target .literal "a") "base" missing ⟨bareSite, 0, [], []⟩).1) ∧
    (¬ (Site.connector .literal).Raises .assertionsFailed ∧ ∃ stays s',
      Tour Site.disk (Site.connector .literal) relayed.groups relayed.fleet.machines bareSite stays
        (relayed.run Site.disk (Site.connector .literal) bareSite).1 s' ∧
      (recordOf stays).Sound (relayed.run Site.disk (Site.connector .literal) bareSite).1) := by
  obtain ⟨hset, hplan⟩ := verdicts_sound Site.disk
  obtain ⟨record, hrec, -, -, hrecord⟩ :=
    hset (Site.target .literal "a") (Site.target_not_raises .literal "a") "base" missing
      ⟨bareSite, 0, [], []⟩
  obtain ⟨stays, htour, -, hstays⟩ :=
    hplan (Site.connector .literal) (Site.connector_not_raises .literal) relayed bareSite
  exact ⟨⟨Site.target_not_raises .literal "a", record, _, hrec, hrecord⟩,
    ⟨Site.connector_not_raises .literal, stays, _, htour, hstays⟩⟩

end Upkeep
