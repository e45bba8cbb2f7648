import Mathlib.Data.List.Forall2
import Upkeep.Proofs.Chronicle
import Upkeep.Run.Site

/-!
Whole runs, machine by machine. A run visits its machines in turn, up to the first fault. To each it
gives one stretch of its chronicle, which is connected once and released once.
-/

set_option autoImplicit false

namespace Upkeep

variable {σ : Type}

/-! ### Stretches -/

/-- The stretch of the chronicle in which a stay takes place. What is done between connection and
release is the groups in turn, and their first fault is how the evaluation ends. -/
inductive Stay.Stretch (groups : List Group) : Stay σ → List (Moment σ) → Prop where
  | refused (name : String) (m : Machine) (f : Fault) :
      Stretch groups (.refused name m f)
        [.report (.machine name false none), .connect name m (.error f),
          .report (.machine name false (some f))]
  | served (name : String) (m : Machine) (t : Target σ) (record : Record)
      (evaluated released : Except Fault Unit) (work : List (Moment σ)) :
      (∀ moment ∈ work, moment.During name) →
      Bracketed (.groups groups) (reports work) evaluated →
      (reports work).findSome? Event.fault? = faultOf evaluated →
      Stretch groups (.served name m t record evaluated released)
        (.report (.machine name false none) :: .connect name m (.ok t) ::
          .report (.machine name true none) :: work ++ [.close name released])

theorem Stay.Happened.stretch {disk : σ → Disk} {connector : Connector σ} {groups : List Group}
    {stay : Stay σ} {s s' : σ} (h : stay.Happened disk connector groups s s') :
    ∃ moments, stay.Stretch groups moments ∧ Chronicle connector none s moments none s' ∧
      reports moments = stay.events := by
  cases h with
  | refused hc =>
    exact ⟨_, .refused _ _ _, .cons (.report _) (.cons (.refused hc) (.cons (.report _) .nil)), rfl⟩
  | @served name m t record evaluated released _ s₁ s₂ _ _ hc hrec hclose =>
    obtain ⟨work, hwork, hreports, hduring⟩ := hrec.worked connector name
    have hbrackets : Bracketed (.groups groups) (reports work) evaluated := by
      rw [hreports]
      exact hrec.bracketed
    refine ⟨_, .served name m t record evaluated released work hduring hbrackets
      (hbrackets.first_fault (.groups groups)), ?_, ?_⟩
    · have hend : Chronicle connector (some (name, t)) s₂ [.close name released] none s' :=
        .cons (.closed hclose) .nil
      exact .cons (.report _) (.cons (.connected hc) (.cons (.report _) (hwork.append hend)))
    · change _ :: _ :: reports (work ++ [.close name released]) = _
      rw [reports_append, hreports]
      exact congrArg (fun es => _ :: _ :: es) (List.append_nil _)

theorem Tour.stretches {disk : σ → Disk} {connector : Connector σ} {groups : List Group}
    {machines : List (String × Machine)} {stays : List (Stay σ)} {s s' : σ}
    {r : Except Fault Unit} (h : Tour disk connector groups machines s stays r s') :
    ∃ stretches : List (List (Moment σ)),
      List.Forall₂ (Stay.Stretch groups) stays stretches ∧
      Chronicle connector none s stretches.flatten none s' ∧
      reports stretches.flatten = stays.flatMap Stay.events := by
  induction h with
  | done => exact ⟨[], .nil, .nil, rfl⟩
  | next _ hstay _ _ ih =>
    obtain ⟨moments, hstretch, hchron, hreports⟩ := hstay.stretch
    obtain ⟨stretches, hall, hchron', hreports'⟩ := ih
    exact ⟨moments :: stretches, .cons hstretch hall, hchron.append hchron',
      by simp [hreports, hreports']⟩
  | stop _ hstay _ =>
    obtain ⟨moments, hstretch, hchron, hreports⟩ := hstay.stretch
    exact ⟨[moments], .cons hstretch .nil, by simpa using hchron, by simpa using hreports⟩

/-! ### Releases -/

theorem Stay.Stretch.close {groups : List Group} {stay : Stay σ} {before after : List (Moment σ)}
    {name : String} {outcome : Except Fault Unit}
    (h : stay.Stretch groups (before ++ .close name outcome :: after)) :
    name = stay.machine.1 ∧ after = [] := by
  generalize hms : before ++ .close name outcome :: after = moments at h
  cases h with
  | refused name' m f =>
    have hm : Moment.close name outcome ∈ before ++ .close name outcome :: after := by simp
    rw [hms] at hm
    simp at hm
  | served name' m t record evaluated released work hduring _ _ =>
    rcases append_split hms.symm with ⟨rest, hwork, _⟩ | ⟨front, _, hend⟩
    -- In the work there are reports on assertions and calls, but no release.
    · have hm : Moment.close name outcome ∈ before ++ .close name outcome :: rest := by simp
      rw [← hwork] at hm
      simp only [List.mem_cons, reduceCtorEq, false_or] at hm
      cases hduring _ hm
    · cases front with
      | nil =>
        obtain ⟨hclose, rfl⟩ := List.cons.inj hend
        cases hclose
        exact ⟨rfl, rfl⟩
      | cons _ _ => simp at hend

theorem Stay.Stretch.about {groups : List Group} {stay : Stay σ} {moments : List (Moment σ)}
    (h : stay.Stretch groups moments) {moment : Moment σ} (hm : moment ∈ moments) {name : String}
    (hname : moment.machine? = some name) : name = stay.machine.1 := by
  cases h with
  | refused name' m f =>
    simp only [List.mem_cons, List.not_mem_nil, or_false] at hm
    rcases hm with rfl | rfl | rfl <;> exact (Option.some.inj hname).symm
  | served name' m t record evaluated released work hduring _ _ =>
    simp only [List.mem_cons, List.mem_append, List.not_mem_nil, or_false] at hm
    rcases hm with (rfl | rfl | rfl | hm) | rfl
    · exact (Option.some.inj hname).symm
    · exact (Option.some.inj hname).symm
    · exact (Option.some.inj hname).symm
    · cases hduring moment hm with
      | report => cases hname
      | call => exact (Option.some.inj hname).symm
    · exact (Option.some.inj hname).symm

theorem about_of_mem_flatten {groups : List Group} {stays : List (Stay σ)}
    {stretches : List (List (Moment σ))} (h : List.Forall₂ (Stay.Stretch groups) stays stretches)
    {moment : Moment σ} (hm : moment ∈ stretches.flatten) {name : String}
    (hname : moment.machine? = some name) : ∃ stay ∈ stays, name = stay.machine.1 := by
  induction h with
  | nil => simp at hm
  | cons hstretch _ ih =>
    rcases List.mem_append.mp hm with hm | hm
    · exact ⟨_, .head _, hstretch.about hm hname⟩
    · obtain ⟨stay, hstay, hname'⟩ := ih hm
      exact ⟨stay, .tail _ hstay, hname'⟩

/-- After a machine has been released nothing more is done with it. -/
theorem not_about_of_closed {groups : List Group} {stays : List (Stay σ)}
    {stretches : List (List (Moment σ))} (h : List.Forall₂ (Stay.Stretch groups) stays stretches)
    (hnames : (stays.map fun stay => stay.machine.1).Pairwise (· ≠ ·))
    {before after : List (Moment σ)} {name : String} {outcome : Except Fault Unit}
    (hsplit : stretches.flatten = before ++ .close name outcome :: after) :
    ∀ moment ∈ after, moment.machine? ≠ some name := by
  induction h generalizing before with
  | nil => simp at hsplit
  | cons hstretch hrest ih =>
    obtain ⟨hhead, htail⟩ := List.pairwise_cons.mp hnames
    rcases append_split hsplit with ⟨rest, rfl, rfl⟩ | ⟨front, _, hlater⟩
    · obtain ⟨rfl, rfl⟩ := hstretch.close
      intro moment hm hname
      obtain ⟨stay, hstay, hsame⟩ := about_of_mem_flatten hrest hm hname
      exact hhead _ (List.mem_map_of_mem hstay) hsame
    · exact ih htail hlater

/-! ### Which machines are visited, and how the run ends -/

section Tours

variable {disk : σ → Disk} {connector : Connector σ} {groups : List Group}
  {machines : List (String × Machine)} {stays : List (Stay σ)} {s s' : σ} {r : Except Fault Unit}

theorem Tour.visited (h : Tour disk connector groups machines s stays r s') :
    stays.map Stay.machine <+: machines := by
  induction h with
  | done => exact List.prefix_rfl
  | next hmachine _ _ _ ih => exact List.cons_prefix_cons.mpr ⟨hmachine, ih⟩
  | stop hmachine _ _ => exact List.cons_prefix_cons.mpr ⟨hmachine, List.nil_prefix⟩

/-- Only at the last machine there may be a fault, and that is the result. -/
theorem Tour.result (h : Tour disk connector groups machines s stays r s') :
    (∀ stay ∈ stays.dropLast, stay.fault = none) ∧
      r = resultOf (stays.getLast?.bind Stay.fault) := by
  induction h with
  | done => exact ⟨by simp, rfl⟩
  | @next _ _ _ _ _ stay stays _ _ _ hf _ ih =>
    cases stays with
    | nil => simpa [hf] using ih.2
    | cons stay' stays =>
      refine ⟨?_, by simpa using ih.2⟩
      simpa [hf] using ih.1
  | stop _ _ hf => simp [hf, resultOf]

theorem Tour.ok_iff (h : Tour disk connector groups machines s stays r s') :
    r = .ok () ↔ stays.map Stay.machine = machines ∧ ∀ stay ∈ stays, stay.fault = none := by
  induction h with
  | done => simp
  | next hmachine _ hf _ ih => simp [hmachine, hf, ih]
  | stop _ _ hf => simp [hf]

end Tours

theorem Stay.fault_eq_none_iff (stay : Stay σ) :
    stay.fault = none ↔ ∃ name m t record, stay = .served name m t record (.ok ()) (.ok ()) := by
  cases stay with
  | refused name m f => simp [Stay.fault]
  | served name m t record evaluated released =>
    cases evaluated <;> cases released <;> simp [Stay.fault, faultOf]

/-! ### Runs -/

/-- What a run comes to: the stays on its tour, and the stretches of its chronicle. -/
structure Plan.Visits (plan : Plan) (disk : σ → Disk) (connector : Connector σ) (s : σ)
    (r : Except Fault Unit) (p : Progress σ) (stays : List (Stay σ))
    (stretches : List (List (Moment σ))) : Prop where
  tour : Tour disk connector plan.groups plan.fleet.machines s stays r p.world
  visited : stays.map Stay.machine <+: plan.fleet.machines
  ascending : (stays.map fun stay => stay.machine.1).Pairwise (· < ·)
  each : List.Forall₂ (Stay.Stretch plan.groups) stays stretches
  chronicle : Chronicle connector none s stretches.flatten none p.world
  reported : reports stretches.flatten = p.events
  released : ∀ before name outcome after,
    stretches.flatten = before ++ .close name outcome :: after →
    ∀ moment ∈ after, moment.machine? ≠ some name
  stopped : ∀ stay ∈ stays.dropLast, stay.fault = none
  result : r = resultOf (stays.getLast?.bind Stay.fault)
  ok_iff : r = .ok () ↔ stays.map Stay.machine = plan.fleet.machines ∧
    ∀ stay ∈ stays, ∃ name m t record, stay = .served name m t record (.ok ()) (.ok ())

theorem Plan.run_visits (plan : Plan) (disk : σ → Disk) (connector : Connector σ) (s : σ)
    (h : Named.Ascending plan.fleet.machines) :
    ∃ stays stretches, plan.Visits disk connector s (plan.run disk connector s).1
      (plan.run disk connector s).2 stays stretches := by
  obtain ⟨stays, htour, hevents⟩ := plan.run_tours disk connector s
  obtain ⟨stretches, heach, hchron, hreports⟩ := htour.stretches
  have hascending : (stays.map fun stay => stay.machine.1).Pairwise (· < ·) := by
    have hpairs := h.sublist htour.visited.sublist
    rw [List.pairwise_map] at hpairs ⊢
    exact hpairs
  exact ⟨stays, stretches,
    { tour := htour
      visited := htour.visited
      ascending := hascending
      each := heach
      chronicle := hchron
      reported := hreports.trans hevents.symm
      released := fun _ _ _ _ =>
        not_about_of_closed heach (hascending.imp fun hlt => String.ne_of_lt hlt)
      stopped := htour.result.1
      result := htour.result.2
      ok_iff := by simpa only [Stay.fault_eq_none_iff] using htour.ok_iff }⟩

/-- Two machines that lack a file, for which there is no remedy. -/
def forsaken : Plan where
  fleet := ⟨"pair", [("a", {}), ("b", {})]⟩
  groups := [⟨"base",
    [("motd", ⟨{ kind := .fileExists, filePath := "/etc/motd" }, none, [.fail]⟩)]⟩]

/-- Of the two, the first cannot be released either. -/
def brittleSite : Site := ⟨⟨[], [], ""⟩, [("a", { failsToClose := true }), ("b", {})]⟩

theorem forsaken_visits :
    Named.Ascending forsaken.fleet.machines ∧
      ∃ stays stretches, forsaken.Visits Site.disk (Site.connector .literal) brittleSite
        (forsaken.run Site.disk (Site.connector .literal) brittleSite).1
        (forsaken.run Site.disk (Site.connector .literal) brittleSite).2 stays stretches := by
  have h : Named.Ascending forsaken.fleet.machines := by
    unfold Named.Ascending
    decide
  exact ⟨h, Plan.run_visits forsaken Site.disk (Site.connector .literal) brittleSite h⟩

end Upkeep
