import Upkeep.Proofs.Separation

/-!
Runs over fleets whose machines have nothing in common but the local files. Such a run is the runs
on the machines alone, one after the other, up to the first that fails.
-/

set_option autoImplicit false

namespace Upkeep

variable {σ κ α : Type}

/-! ### One after the other -/

/-- What the last of some runs has come to. Where there is none, nothing has failed. -/
def lastResult (result : α → Except Fault Unit) (xs : List α) : Except Fault Unit :=
  (xs.getLast?.map result).getD (.ok ())

theorem lastResult_cons (result : α → Except Fault Unit) {x : α} (xs : List α)
    (h : result x = .ok ()) : lastResult result (x :: xs) = lastResult result xs := by
  cases xs with
  | nil => exact h
  | cons y ys => rw [lastResult, List.getLast?_cons_cons, ← lastResult]

/-- On the way from one world to another, these machines have come to their final states and nothing
else has changed. -/
structure Partition.Concluded (parts : Partition σ κ) (final : String × α → κ)
    (machines : List (String × α)) (s s' : σ) : Prop where
  disk : parts.disk s' = parts.disk s
  final : ∀ machine ∈ machines, parts.state machine.1 s' = final machine
  untouched : ∀ name, (∀ machine ∈ machines, machine.1 ≠ name) →
    parts.state name s' = parts.state name s

namespace Partition.Concluded

variable {parts : Partition σ κ} {final : String × α → κ} {machine : String × α}
  {machines : List (String × α)} {s s₁ s' : σ}

theorem none (s : σ) : parts.Concluded final [] s s := ⟨rfl, by simp, fun _ _ => rfl⟩

theorem cons (honly : parts.Only machine.1 s s₁) (hfinal : parts.state machine.1 s₁ = final machine)
    (hnames : ∀ other ∈ machines, other.1 ≠ machine.1) (h : parts.Concluded final machines s₁ s') :
    parts.Concluded final (machine :: machines) s s' where
  disk := h.disk.trans honly.disk
  final := by
    intro other hother
    rcases List.mem_cons.mp hother with rfl | hother
    · rw [h.untouched other.1 hnames, hfinal]
    · exact h.final other hother
  untouched := by
    intro name hname
    obtain ⟨hne, hrest⟩ := List.forall_mem_cons.mp hname
    rw [h.untouched name hrest, honly.elsewhere name hne.symm]

end Partition.Concluded

namespace Plan

variable {parts : Partition σ κ} {connector : Connector σ}

/-- The run as it would be if this machine were the whole fleet. -/
def alone (plan : Plan) (disk : σ → Disk) (connector : Connector σ) (s : σ)
    (machine : String × Machine) : Except Fault Unit × Progress σ :=
  { plan with fleet.machines := [machine] }.run disk connector s

/-- Those of some machines that a run comes to: it ends with the first that fails alone. -/
def cut (plan : Plan) (disk : σ → Disk) (connector : Connector σ) (s : σ) :
    List (String × Machine) → List (String × Machine)
  | [] => []
  | machine :: machines =>
    match (plan.alone disk connector s machine).1 with
    | .ok () => machine :: cut plan disk connector s machines
    | .error _ => [machine]

section Cuts

variable (plan : Plan) (disk : σ → Disk) (connector : Connector σ) (s : σ)
  {machine : String × Machine} (machines : List (String × Machine))

theorem cut_cons_ok (h : (plan.alone disk connector s machine).1 = .ok ()) :
    plan.cut disk connector s (machine :: machines) =
      machine :: plan.cut disk connector s machines := by
  simp only [cut, h]

theorem cut_cons_error {f : Fault} (h : (plan.alone disk connector s machine).1 = .error f) :
    plan.cut disk connector s (machine :: machines) = [machine] := by
  simp only [cut, h]

theorem cut_prefix : plan.cut disk connector s machines <+: machines := by
  induction machines with
  | nil => exact List.prefix_rfl
  | cons machine machines ih =>
    unfold cut
    split
    · exact List.cons_prefix_cons.mpr ⟨rfl, ih⟩
    · exact List.cons_prefix_cons.mpr ⟨rfl, List.nil_prefix⟩

theorem ok_of_mem_dropLast_cut :
    ∀ machine ∈ (plan.cut disk connector s machines).dropLast,
      (plan.alone disk connector s machine).1 = .ok () := by
  induction machines with
  | nil => simp [cut]
  | cons machine machines ih =>
    unfold cut
    split
    · rename_i hok
      intro other hother
      cases hcut : plan.cut disk connector s machines with
      | nil => simp [hcut] at hother
      | cons first rest =>
        rw [hcut] at ih hother
        rcases List.mem_cons.mp hother with rfl | hother
        · exact hok
        · exact ih other hother
    · simp

theorem cut_ends :
    plan.cut disk connector s machines = machines ∨
      ∃ machine f, (plan.cut disk connector s machines).getLast? = some machine ∧
        (plan.alone disk connector s machine).1 = .error f := by
  induction machines with
  | nil => exact Or.inl rfl
  | cons machine machines ih =>
    unfold cut
    split
    · rcases ih with heq | ⟨last, f, hlast, hf⟩
      · exact Or.inl (by rw [heq])
      · exact Or.inr ⟨last, f, by rw [List.getLast?_cons, hlast, Option.getD_some], hf⟩
    · rename_i f hf
      exact Or.inr ⟨machine, f, rfl, hf⟩

end Cuts

/-- Whatever has been done elsewhere, a machine is visited as if it were alone. -/
theorem visit_alone (hc : connector.Separate parts) (plan : Plan) {machine : String × Machine}
    {s₀ s : σ} (hs : parts.Alike machine.1 s₀ s) (events : List Event) (notes : List Note) :
    ∃ s' notes', visit parts.disk connector plan.groups machine.1 machine.2 ⟨s, 0, events, notes⟩ =
        ((plan.alone parts.disk connector s₀ machine).1,
          ⟨s', 0, events ++ (plan.alone parts.disk connector s₀ machine).2.events, notes'⟩) ∧
      parts.Only machine.1 s s' ∧
      parts.state machine.1 s' =
        parts.state machine.1 (plan.alone parts.disk connector s₀ machine).2.world := by
  obtain ⟨stay, s', notes', hmachine, hstay, hvisit⟩ :=
    visit_stays parts.disk connector plan.groups machine.1 machine.2 s events notes
  obtain ⟨stay₀, s₀', notes₀, hmachine₀, hstay₀, hvisit₀⟩ :=
    visit_stays parts.disk connector plan.groups machine.1 machine.2 s₀ []
      [⟨.info, startMessage { plan with fleet.machines := [machine] }⟩]
  obtain rfl : stay.machine = machine := hmachine
  obtain ⟨s₁, hstay₁, hs'⟩ := hstay.alike hc hs.symm
  obtain ⟨rfl, rfl⟩ := hstay₁.unique hstay₀ hmachine₀.symm
  have halone : plan.alone parts.disk connector s₀ stay.machine =
      (resultOf stay.fault, ⟨s₁, 0, stay.events, notes₀⟩) := by
    unfold alone run
    simp only [visitAll, Op.bind_apply, Progress.note, List.nil_append, hvisit₀]
    cases stay.fault <;> rfl
  rw [halone]
  exact ⟨s', notes', hvisit, hstay.only hc, hs'.state⟩

section Fleets

variable {machines : List (String × Machine)} {s₀ s : σ}

/-- What comes after the first machine that fails makes no difference. -/
theorem visitAll_cut (hc : connector.Separate parts) (plan : Plan)
    (hnames : machines.Pairwise fun a b => a.1 ≠ b.1)
    (hs : ∀ machine ∈ machines, parts.Alike machine.1 s₀ s) (events : List Event)
    (notes : List Note) :
    visitAll parts.disk connector plan.groups machines ⟨s, 0, events, notes⟩ =
      visitAll parts.disk connector plan.groups (plan.cut parts.disk connector s₀ machines)
        ⟨s, 0, events, notes⟩ := by
  induction machines generalizing s events notes with
  | nil => rfl
  | cons machine machines ih =>
    obtain ⟨hhead, htail⟩ := List.pairwise_cons.mp hnames
    obtain ⟨hs₀, hrest⟩ := List.forall_mem_cons.mp hs
    obtain ⟨s₁, notes₁, hvisit, honly, -⟩ := visit_alone hc plan hs₀ events notes
    cases hresult : (plan.alone parts.disk connector s₀ machine).1 with
    | error f =>
      rw [hresult] at hvisit
      rw [plan.cut_cons_error parts.disk connector s₀ machines hresult]
      simp only [visitAll, Op.bind_apply, hvisit]
    | ok =>
      rw [hresult] at hvisit
      rw [plan.cut_cons_ok parts.disk connector s₀ machines hresult]
      simp only [visitAll, Op.bind_apply, hvisit]
      exact ih htail
        (fun other hother => honly.alike (hhead other hother).symm (hrest other hother)) _ notes₁

/-- Each machine that a run comes to is visited as if it were alone. -/
theorem visitAll_alone (hc : connector.Separate parts) (plan : Plan)
    (hnames : machines.Pairwise fun a b => a.1 ≠ b.1)
    (hs : ∀ machine ∈ machines, parts.Alike machine.1 s₀ s) (events : List Event)
    (notes : List Note) :
    ∃ s' notes', visitAll parts.disk connector plan.groups machines ⟨s, 0, events, notes⟩ =
        (lastResult (fun machine => (plan.alone parts.disk connector s₀ machine).1)
            (plan.cut parts.disk connector s₀ machines),
          ⟨s', 0, events ++ (plan.cut parts.disk connector s₀ machines).flatMap
            fun machine => (plan.alone parts.disk connector s₀ machine).2.events, notes'⟩) ∧
      parts.Concluded
        (fun machine => parts.state machine.1
          (plan.alone parts.disk connector s₀ machine).2.world)
        (plan.cut parts.disk connector s₀ machines) s s' := by
  induction machines generalizing s events notes with
  | nil => exact ⟨s, notes, by simp [visitAll, Op.pure_apply, cut, lastResult], .none s⟩
  | cons machine machines ih =>
    obtain ⟨hhead, htail⟩ := List.pairwise_cons.mp hnames
    obtain ⟨hs₀, hrest⟩ := List.forall_mem_cons.mp hs
    obtain ⟨s₁, notes₁, hvisit, honly, hfinal⟩ := visit_alone hc plan hs₀ events notes
    -- The machines to come have not been changed by this one: the induction hypothesis applies to
    -- the world it leaves, with the same starting world for the runs alone.
    cases hresult : (plan.alone parts.disk connector s₀ machine).1 with
    | error f =>
      rw [hresult] at hvisit
      rw [plan.cut_cons_error parts.disk connector s₀ machines hresult]
      refine ⟨s₁, notes₁, ?_, .cons honly hfinal (by simp) (.none s₁)⟩
      simp [visitAll, Op.bind_apply, hvisit, lastResult, hresult]
    | ok =>
      rw [hresult] at hvisit
      obtain ⟨s', notes', hall, hconcluded⟩ := ih htail
        (fun other hother => honly.alike (hhead other hother).symm (hrest other hother))
        (events ++ (plan.alone parts.disk connector s₀ machine).2.events) notes₁
      rw [plan.cut_cons_ok parts.disk connector s₀ machines hresult,
        lastResult_cons (fun machine => (plan.alone parts.disk connector s₀ machine).1) _ hresult]
      have hcut : ∀ other ∈ plan.cut parts.disk connector s₀ machines, other.1 ≠ machine.1 := by
        intro other hother
        have hmem := (plan.cut_prefix parts.disk connector s₀ machines).mem hother
        exact (hhead other hmem).symm
      refine ⟨s', notes', ?_, .cons honly hfinal hcut hconcluded⟩
      simp only [visitAll, Op.bind_apply, hvisit, hall, List.flatMap_cons, List.append_assoc]

end Fleets

theorem visitAll_congr {disk : σ → Disk} {connector connector' : Connector σ} {groups : List Group}
    {machines : List (String × Machine)}
    (h : ∀ machine ∈ machines,
      connector' machine.1 machine.2 = connector machine.1 machine.2) :
    visitAll disk connector' groups machines = visitAll disk connector groups machines := by
  induction machines with
  | nil => rfl
  | cons machine machines ih =>
    obtain ⟨hhead, hrest⟩ := List.forall_mem_cons.mp h
    have hconnect : connectTo connector' machine.1 machine.2 =
        connectTo connector machine.1 machine.2 := by
      funext p
      simp only [connectTo, hhead]
    simp only [visitAll, visit, hconnect, ih hrest]

theorem visitAll_append_error {disk : σ → Disk} {connector : Connector σ} {groups : List Group}
    {machines : List (String × Machine)} {p p' : Progress σ} {f : Fault}
    (h : visitAll disk connector groups machines p = (.error f, p'))
    (rest : List (String × Machine)) :
    visitAll disk connector groups (machines ++ rest) p = (.error f, p') := by
  induction machines generalizing p with
  | nil => cases h
  | cons machine machines ih =>
    simp only [visitAll, List.cons_append] at h ⊢
    rcases Op.bind_error h with h | ⟨x, p₁, hvisit, h⟩
    · rw [Op.bind_apply, h]
    · rw [Op.bind_apply, hvisit]
      exact ih h

end Plan

/-! ### Events -/

theorem Record.machine_not_mem_events (record : Record) (name : String) (connected : Bool)
    (fault : Option Fault) : .machine name connected fault ∉ record.events := by
  induction record with
  | nothing => simp [events]
  | assertion group name' a answer remedy e rest ihRemedy ih =>
    simp [events, Event.started, Event.ended, ihRemedy, ih]
  | action parent x within result rest ihWithin ih => simp [events, ihWithin, ih]

theorem Stay.name_of_event {stay : Stay σ} {name : String} {connected : Bool}
    {fault : Option Fault} (h : .machine name connected fault ∈ stay.events) :
    stay.machine.1 = name := by
  cases stay with
  | refused name' m f =>
    simp only [events, List.mem_cons, Event.machine.injEq, List.not_mem_nil, or_false] at h
    rcases h with ⟨rfl, -⟩ | ⟨rfl, -⟩ <;> rfl
  | served name' m t record evaluated released =>
    simp only [events, List.mem_cons, Event.machine.injEq] at h
    rcases h with ⟨rfl, -⟩ | ⟨rfl, -⟩ | h
    · rfl
    · rfl
    · exact absurd h (record.machine_not_mem_events name connected fault)

theorem Plan.name_of_alone_event {plan : Plan} {disk : σ → Disk} {connector : Connector σ} {s : σ}
    {machine : String × Machine} {name : String} {connected : Bool} {fault : Option Fault}
    (h : .machine name connected fault ∈ (plan.alone disk connector s machine).2.events) :
    machine.1 = name := by
  obtain ⟨stays, htour, hevents⟩ :=
    Plan.run_tours { plan with fleet.machines := [machine] } disk connector s
  rw [alone, hevents] at h
  obtain ⟨stay, hstay, hevent⟩ := List.mem_flatMap.mp h
  have hmem := htour.visited.mem (List.mem_map_of_mem hstay)
  obtain rfl := List.mem_singleton.mp hmem
  exact Stay.name_of_event hevent

/-! ### Fleets -/

/-- How a machine would be connected that the run does not come to makes no difference. -/
theorem Plan.run_indifferent {plan : Plan} {parts : Partition σ κ} {connector : Connector σ}
    (hc : connector.Separate parts) (hne : plan.fleet.machines.Pairwise fun a b => a.1 ≠ b.1)
    {s : σ} {connector' : Connector σ}
    (hagree : ∀ machine ∈ plan.cut parts.disk connector s plan.fleet.machines,
      connector' machine.1 machine.2 = connector machine.1 machine.2) :
    plan.run parts.disk connector' s = plan.run parts.disk connector s := by
  have hs : ∀ machine ∈ plan.fleet.machines, parts.Alike machine.1 s s := fun _ _ => .refl s
  have hcut := visitAll_cut hc plan hne hs [] [⟨.info, plan.startMessage⟩]
  have hreached : visitAll parts.disk connector' plan.groups _ =
      visitAll parts.disk connector plan.groups _ := visitAll_congr hagree
  -- Nothing is known of the other connector, which may connect machines in any way: that the run
  -- goes no further is seen from its having failed.
  rcases plan.cut_ends parts.disk connector s plan.fleet.machines with heq | ⟨last, f, hlast, hf⟩
  · rw [heq] at hreached
    simp only [run, hreached]
  · obtain ⟨s', notes', hall, -⟩ :=
      visitAll_alone hc plan hne hs [] [⟨.info, plan.startMessage⟩]
    have hfailed : lastResult (fun machine => (plan.alone parts.disk connector s machine).1)
        (plan.cut parts.disk connector s plan.fleet.machines) = .error f := by
      rw [lastResult, hlast, Option.map_some, Option.getD_some, hf]
    rw [hfailed] at hall
    rw [hall, ← hreached] at hcut
    obtain ⟨rest, hrest⟩ := plan.cut_prefix parts.disk connector s plan.fleet.machines
    have hstopped := visitAll_append_error hcut.symm rest
    rw [hrest] at hstopped
    exact hstopped.trans hall.symm

/-- What a run comes to on machines with nothing in common: up to the first that fails, all of them
are as if each had been alone, and no other has been touched. -/
structure Plan.Separates (plan : Plan) (parts : Partition σ κ) (connector : Connector σ) (s : σ)
    (r : Except Fault Unit) (p : Progress σ) (reached : List (String × Machine)) : Prop where
  visited : reached <+: plan.fleet.machines
  succeeded : ∀ machine ∈ reached.dropLast,
    (plan.alone parts.disk connector s machine).1 = .ok ()
  ended : reached = plan.fleet.machines ∨ ∃ machine f, reached.getLast? = some machine ∧
    (plan.alone parts.disk connector s machine).1 = .error f
  result : r = lastResult (fun machine => (plan.alone parts.disk connector s machine).1) reached
  events : p.events =
    reached.flatMap fun machine => (plan.alone parts.disk connector s machine).2.events
  concluded : parts.Concluded
    (fun machine => parts.state machine.1 (plan.alone parts.disk connector s machine).2.world)
    reached s p.world
  silent : ∀ name connected fault, .machine name connected fault ∈ p.events →
    ∃ machine ∈ reached, machine.1 = name
  unconnected : ∀ connector' : Connector σ,
    (∀ machine ∈ reached, connector' machine.1 machine.2 = connector machine.1 machine.2) →
    plan.run parts.disk connector' s = plan.run parts.disk connector s

theorem Plan.run_separates (plan : Plan) (parts : Partition σ κ) (connector : Connector σ)
    (hc : connector.Separate parts) (hnames : Named.Ascending plan.fleet.machines) (s : σ) :
    plan.Separates parts connector s (plan.run parts.disk connector s).1
      (plan.run parts.disk connector s).2
      (plan.cut parts.disk connector s plan.fleet.machines) := by
  have hne : plan.fleet.machines.Pairwise fun a b => a.1 ≠ b.1 :=
    hnames.imp fun hlt => String.ne_of_lt hlt
  obtain ⟨s', notes', hall, hconcluded⟩ :=
    visitAll_alone hc plan hne (fun _ _ => .refl s) [] [⟨.info, plan.startMessage⟩]
  have hrun : plan.run parts.disk connector s = _ := hall
  rw [hrun]
  refine
    { visited := plan.cut_prefix parts.disk connector s plan.fleet.machines
      succeeded := plan.ok_of_mem_dropLast_cut parts.disk connector s plan.fleet.machines
      ended := plan.cut_ends parts.disk connector s plan.fleet.machines
      result := rfl
      events := List.nil_append _
      concluded := hconcluded
      silent := ?_
      unconnected := fun _ hagree => run_indifferent hc hne hagree }
  intro name connected fault hevent
  obtain ⟨machine, hmachine, hevent⟩ := List.mem_flatMap.mp hevent
  exact ⟨machine, hmachine, name_of_alone_event hevent⟩

/-- Three machines, each to have a file brought that it lacks. -/
def shipping : Plan where
  fleet := ⟨"three", [("a", {}), ("b", {}), ("c", {})]⟩
  groups := [⟨"base", [("motd", ⟨{ kind := .fileExists, filePath := "/etc/motd" }, none,
    [.copyFile "/motd" "/etc/motd"]⟩)]⟩]

/-- The second of the three cannot be written to, and cannot be released either. -/
def lockedSite : Site :=
  ⟨⟨[(["motd"], .file [1])], [], ""⟩,
    [("a", {}), ("b", { readOnly := ["/etc/motd"], failsToClose := true }), ("c", {})]⟩

theorem shipping_separates :
    ((Site.connector .literal).Separate Site.parts ∧ Named.Ascending shipping.fleet.machines) ∧
      shipping.Separates Site.parts (Site.connector .literal) lockedSite
        (shipping.run Site.disk (Site.connector .literal) lockedSite).1
        (shipping.run Site.disk (Site.connector .literal) lockedSite).2
        (shipping.cut Site.disk (Site.connector .literal) lockedSite shipping.fleet.machines) ∧
      shipping.cut Site.disk (Site.connector .literal) lockedSite shipping.fleet.machines =
        [("a", {}), ("b", {})] := by
  have hnames : Named.Ascending shipping.fleet.machines := by
    unfold Named.Ascending
    decide
  refine ⟨⟨Site.connector_separate .literal, hnames⟩, ?_, by decide +kernel⟩
  exact Plan.run_separates shipping Site.parts (Site.connector .literal)
    (Site.connector_separate .literal) hnames
    lockedSite

end Upkeep
