import Upkeep.Proofs.Recording

/-!
Runs over machines. A stay is what came of one machine; a tour is the stays of a run, each in the
world that the one before has left. Every run is a tour, and its events are those of the stays.
-/

set_option autoImplicit false

namespace Upkeep

variable {σ : Type}

inductive Stay (σ : Type) where
  /-- The machine could not be connected. -/
  | refused (name : String) (m : Machine) (f : Fault)
  /-- The groups were evaluated on the machine, and it was released. -/
  | served (name : String) (m : Machine) (t : Target σ) (record : Record)
      (evaluated released : Except Fault Unit)

namespace Stay

def machine : Stay σ → String × Machine
  | .refused name m _ => (name, m)
  | .served name m .. => (name, m)

/-- What ends the run here. Of two faults the first counts. -/
def fault : Stay σ → Option Fault
  | .refused _ _ f => some f
  | .served _ _ _ _ evaluated released => (faultOf evaluated).or (faultOf released)

def record : Stay σ → Record
  | .refused .. => .nothing
  | .served _ _ _ record _ _ => record

def events : Stay σ → List Event
  | .refused name _ f => [.machine name false none, .machine name false (some f)]
  | .served name _ _ record _ _ =>
    .machine name false none :: .machine name true none :: record.events

/-- With these groups, a stay leads from one world to another. -/
inductive Happened (disk : σ → Disk) (connector : Connector σ) (groups : List Group) :
    Stay σ → σ → σ → Prop where
  | refused {name : String} {m : Machine} {f : Fault} {s s' : σ} {notes : List Note} :
      connector name m s = ⟨.error f, s', notes⟩ →
      Happened disk connector groups (.refused name m f) s s'
  | served {name : String} {m : Machine} {t : Target σ} {record : Record}
      {evaluated released : Except Fault Unit} {s s₁ s₂ s' : σ} {notes : List Note} :
      connector name m s = ⟨.ok t, s₁, notes⟩ →
      Recorded disk t 0 (.groups groups) s₁ record evaluated s₂ →
      t.close s₂ = (released, s') →
      Happened disk connector groups (.served name m t record evaluated released) s s'

end Stay

/-- How a run ends that this fault has ended, if any. -/
def resultOf : Option Fault → Except Fault Unit
  | some f => .error f
  | none => .ok ()

/-- Machines are visited one after another, up to the first fault. -/
inductive Tour (disk : σ → Disk) (connector : Connector σ) (groups : List Group) :
    List (String × Machine) → σ → List (Stay σ) → Except Fault Unit → σ → Prop where
  | done {s : σ} : Tour disk connector groups [] s [] (.ok ()) s
  | next {machine : String × Machine} {machines : List (String × Machine)} {s s₁ s' : σ}
      {stay : Stay σ} {stays : List (Stay σ)} {r : Except Fault Unit} :
      stay.machine = machine → stay.Happened disk connector groups s s₁ → stay.fault = none →
      Tour disk connector groups machines s₁ stays r s' →
      Tour disk connector groups (machine :: machines) s (stay :: stays) r s'
  | stop {machine : String × Machine} {machines : List (String × Machine)} {s s' : σ}
      {stay : Stay σ} {f : Fault} :
      stay.machine = machine → stay.Happened disk connector groups s s' → stay.fault = some f →
      Tour disk connector groups (machine :: machines) s [stay] (.error f) s'

theorem Tour.happened {disk : σ → Disk} {connector : Connector σ} {groups : List Group}
    {machines : List (String × Machine)} {stays : List (Stay σ)} {s s' : σ}
    {r : Except Fault Unit} (h : Tour disk connector groups machines s stays r s')
    {stay : Stay σ} (hstay : stay ∈ stays) :
    ∃ s₀ s₁, stay.Happened disk connector groups s₀ s₁ := by
  induction h with
  | done => cases hstay
  | next _ hhappened _ _ ih =>
    rcases List.mem_cons.mp hstay with rfl | hstay
    · exact ⟨_, _, hhappened⟩
    · exact ih hstay
  | stop _ hhappened _ =>
    obtain rfl := List.mem_singleton.mp hstay
    exact ⟨_, _, hhappened⟩

/-! ### Runs are tours -/

theorem applyTo_served (disk : σ → Disk) (groups : List Group) (name : String) (t : Target σ)
    (s : σ) (events : List Event) (notes : List Note) :
    ∃ record evaluated released s₂ s' notes',
      Recorded disk t 0 (.groups groups) s record evaluated s₂ ∧ t.close s₂ = (released, s') ∧
        applyTo disk groups name t ⟨s, 0, events, notes⟩ =
          (resultOf ((faultOf evaluated).or (faultOf released)),
            ⟨s', 0, events ++ record.events, notes'⟩) := by
  have hfollows : Step.Follows disk t 0 (.groups groups) _ := .evaluateGroups groups
  obtain ⟨record, evaluated, s₂, notes₂, hrec, hstep⟩ := hfollows s events notes
  rcases hclose : t.close s₂ with ⟨released, s'⟩
  refine ⟨record, evaluated, released, s₂, s',
    (applyTo disk groups name t ⟨s, 0, events, notes⟩).2.notes, hrec, hclose, ?_⟩
  cases evaluated <;> cases released <;>
    simp [applyTo, hstep, Step.ofOp, Op.on, hclose, faultOf, resultOf, Progress.note]

theorem visit_stays (disk : σ → Disk) (connector : Connector σ) (groups : List Group)
    (name : String) (m : Machine) (s : σ) (events : List Event) (notes : List Note) :
    ∃ (stay : Stay σ) (s' : σ) (notes' : List Note), stay.machine = (name, m) ∧
      stay.Happened disk connector groups s s' ∧
      visit disk connector groups name m ⟨s, 0, events, notes⟩ =
        (resultOf stay.fault, ⟨s', 0, events ++ stay.events, notes'⟩) := by
  rcases hc : connector name m s with ⟨f | t, s₁, notes₁⟩
  · exact ⟨.refused name m f, s₁, notes ++ notes₁, rfl, .refused hc,
      by simp [visit, Op.bind_apply, connectTo, Progress.report, hc, Stay.events, Stay.fault,
        resultOf, Except.toOption, faultOf]⟩
  · obtain ⟨record, evaluated, released, s₂, s', notes', hrec, hclose, hstep⟩ :=
      applyTo_served disk groups name t s₁
        (events ++ [.machine name false none, .machine name true none]) (notes ++ notes₁)
    exact ⟨.served name m t record evaluated released, s', notes', rfl, .served hc hrec hclose,
      by simpa [visit, Op.bind_apply, connectTo, Progress.report, hc, Stay.events, Stay.fault,
        Except.toOption, faultOf] using hstep⟩

theorem visitAll_tours (disk : σ → Disk) (connector : Connector σ) (groups : List Group)
    (machines : List (String × Machine)) (s : σ) (events : List Event) (notes : List Note) :
    ∃ stays r s' notes', Tour disk connector groups machines s stays r s' ∧
      visitAll disk connector groups machines ⟨s, 0, events, notes⟩ =
        (r, ⟨s', 0, events ++ stays.flatMap Stay.events, notes'⟩) := by
  induction machines generalizing s events notes with
  | nil => exact ⟨[], _, s, notes, .done, by simp [visitAll, Op.pure_apply]⟩
  | cons machine machines ih =>
    obtain ⟨name, m⟩ := machine
    obtain ⟨stay, s₁, notes₁, hmachine, hstay, hvisit⟩ :=
      visit_stays disk connector groups name m s events notes
    cases hf : stay.fault with
    | some f =>
      refine ⟨[stay], _, s₁, notes₁, .stop hmachine hstay hf, ?_⟩
      simp [visitAll, Op.bind_apply, hvisit, hf, resultOf]
    | none =>
      obtain ⟨stays, r, s', notes', htour, hall⟩ := ih s₁ (events ++ stay.events) notes₁
      refine ⟨stay :: stays, r, s', notes', .next hmachine hstay hf htour, ?_⟩
      simp [visitAll, Op.bind_apply, hvisit, hf, resultOf, hall]

theorem Plan.run_tours (plan : Plan) (disk : σ → Disk) (connector : Connector σ) (s : σ) :
    ∃ stays : List (Stay σ),
      Tour disk connector plan.groups plan.fleet.machines s stays (plan.run disk connector s).1
        (plan.run disk connector s).2.world ∧
      (plan.run disk connector s).2.events = stays.flatMap Stay.events := by
  obtain ⟨stays, r, s', notes', htour, hrun⟩ :=
    visitAll_tours disk connector plan.groups plan.fleet.machines s []
      [⟨.info, plan.startMessage⟩]
  have h : plan.run disk connector s = (r, ⟨s', 0, [] ++ stays.flatMap Stay.events, notes'⟩) := hrun
  exact ⟨stays, by rw [h]; exact htour, by rw [h]; rfl⟩

end Upkeep
