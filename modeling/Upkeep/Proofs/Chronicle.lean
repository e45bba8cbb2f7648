import Upkeep.Proofs.Brackets
import Upkeep.Proofs.Calls
import Upkeep.Proofs.Tour

/-!
All that the world sees of a run, as one sequence: reports, attempts to connect, calls to the
machine that is connected, and releases. A chronicle can only take place with one machine connected
at a time, and with no call but to that one. Every run has a chronicle, in which each machine has a
stretch of its own, up to its release.
-/

set_option autoImplicit false

namespace Upkeep

variable {σ : Type}

inductive Moment (σ : Type) where
  | report (e : Event)
  | connect (name : String) (m : Machine) (outcome : Except Fault (Target σ))
  | call (name : String) (call : Call)
  | close (name : String) (outcome : Except Fault Unit)

namespace Moment

def event? : Moment σ → Option Event
  | .report e => some e
  | _ => none

/-- The machine that a moment is about; none for reports on assertions. -/
def machine? : Moment σ → Option String
  | .report (.machine name _ _) => some name
  | .report (.assertion ..) => none
  | .connect name _ _ => some name
  | .call name _ => some name
  | .close name _ => some name

/-- What a connected machine sees while groups are evaluated on it. -/
inductive During (name : String) : Moment σ → Prop where
  | report (group name' : String) (outcome : Option Outcome) (fault : Option Fault) :
      During name (.report (.assertion group name' outcome fault))
  | call (c : Call) : During name (.call name c)

/-- With this machine connected and in this world, a moment can take place, and leads to that. -/
inductive Happens (connector : Connector σ) :
    Option (String × Target σ) → σ → Moment σ → Option (String × Target σ) → σ → Prop where
  | report {connected : Option (String × Target σ)} {s : σ} (e : Event) :
      Happens connector connected s (.report e) connected s
  | refused {name : String} {m : Machine} {f : Fault} {s s' : σ} {notes : List Note} :
      connector name m s = ⟨.error f, s', notes⟩ →
      Happens connector none s (.connect name m (.error f)) none s'
  | connected {name : String} {m : Machine} {t : Target σ} {s s' : σ} {notes : List Note} :
      connector name m s = ⟨.ok t, s', notes⟩ →
      Happens connector none s (.connect name m (.ok t)) (some (name, t)) s'
  | call {name : String} {t : Target σ} {c : Call} {s s' : σ} :
      t.Performs c s s' → Happens connector (some (name, t)) s (.call name c) (some (name, t)) s'
  | closed {name : String} {t : Target σ} {outcome : Except Fault Unit} {s s' : σ} :
      t.close s = (outcome, s') →
      Happens connector (some (name, t)) s (.close name outcome) none s'

end Moment

inductive Chronicle (connector : Connector σ) :
    Option (String × Target σ) → σ → List (Moment σ) → Option (String × Target σ) → σ → Prop where
  | nil {connected : Option (String × Target σ)} {s : σ} :
      Chronicle connector connected s [] connected s
  | cons {c c₁ c' : Option (String × Target σ)} {s s₁ s' : σ} {moment : Moment σ}
      {moments : List (Moment σ)} :
      moment.Happens connector c s c₁ s₁ → Chronicle connector c₁ s₁ moments c' s' →
      Chronicle connector c s (moment :: moments) c' s'

namespace Chronicle

variable {connector : Connector σ}

theorem append {c c₁ c' : Option (String × Target σ)} {s s₁ s' : σ}
    {moments moments' : List (Moment σ)} (h : Chronicle connector c s moments c₁ s₁)
    (h' : Chronicle connector c₁ s₁ moments' c' s') :
    Chronicle connector c s (moments ++ moments') c' s' := by
  induction h with
  | nil => exact h'
  | cons hmoment _ ih => exact .cons hmoment (ih h')

end Chronicle

/-! ### One machine -/

def reports (moments : List (Moment σ)) : List Event := moments.filterMap Moment.event?

@[simp] theorem reports_append (moments moments' : List (Moment σ)) :
    reports (moments ++ moments') = reports moments ++ reports moments' :=
  List.filterMap_append

/-- On a machine that is connected, these events can be reported on the way from one world to
another, with nothing besides but calls to the machine. -/
def Worked (connector : Connector σ) (name : String) (t : Target σ) (s : σ) (es : List Event)
    (s' : σ) : Prop :=
  ∃ moments, Chronicle connector (some (name, t)) s moments (some (name, t)) s' ∧
    reports moments = es ∧ ∀ moment ∈ moments, moment.During name

namespace Worked

variable {connector : Connector σ} {name : String} {t : Target σ}

theorem nothing {s : σ} : Worked connector name t s [] s := ⟨[], .nil, rfl, by simp⟩

theorem append {s s₁ s' : σ} {es es' : List Event} (h : Worked connector name t s es s₁)
    (h' : Worked connector name t s₁ es' s') : Worked connector name t s (es ++ es') s' := by
  obtain ⟨moments, hchron, hes, hduring⟩ := h
  obtain ⟨moments', hchron', hes', hduring'⟩ := h'
  refine ⟨moments ++ moments', hchron.append hchron', by simp [hes, hes'], ?_⟩
  intro moment hm
  exact (List.mem_append.mp hm).elim (hduring moment) (hduring' moment)

theorem report (s : σ) (group name' : String) (outcome : Option Outcome) (fault : Option Fault) :
    Worked connector name t s [.assertion group name' outcome fault] s :=
  ⟨[.report _], .cons (.report _) .nil, rfl, by simpa using Moment.During.report ..⟩

theorem calls {cs : List Call} {s s' : σ} (h : t.PerformsAll cs s s') :
    Worked connector name t s [] s' := by
  induction h with
  | nil => exact nothing
  | @cons c cs s s₁ s' hcall _ ih =>
    have hone : Worked connector name t s [] s₁ :=
      ⟨[.call name c], .cons (.call hcall) .nil, rfl, by simpa using Moment.During.call c⟩
    exact hone.append ih

theorem step {α : Type} {allowed : Call → Prop} {op : Op σ α} (hop : op.Uses t allowed)
    {s s' : σ} {r : Except Fault α} (h : op s = (r, s')) : Worked connector name t s [] s' := by
  obtain ⟨cs, hcs, -⟩ := hop s
  rw [h] at hcs
  exact calls hcs

theorem bracket {s s₁ s' : σ} {within : List Event} (group name' : String) (e : Evaluation)
    (hcheck : Worked connector name t s [] s₁) (h : Worked connector name t s₁ within s') :
    Worked connector name t s
      (.started group name' :: (within ++ [.ended group name' e])) s' := by
  have hbegun : Worked connector name t s [.started group name'] s₁ :=
    (report s group name' none none).append hcheck
  exact hbegun.append (h.append (report s' group name' (some e.outcome) e.fault))

end Worked

theorem Recorded.worked {disk : σ → Disk} {t : Target σ} {d : Nat} {task : Task} {s s' : σ}
    {record : Record} {r : Except Fault Unit} (h : Recorded disk t d task s record r s')
    (connector : Connector σ) (name : String) :
    Worked connector name t s record.events s' := by
  induction h with
  | done | unset | fail | unrecognised | tooDeep => exact .nothing
  | next _ _ ihFirst ihRest =>
    rw [Record.events_append]
    exact ihFirst.append ihRest
  | stop _ ih => exact ih
  | unanswered hc | holds hc =>
    exact .bracket _ _ _ (.step (.check _ _) hc) .nothing
  | remedied hc _ ih => exact .bracket _ _ _ (.step (.check _ _) hc) ih
  | copied hc | notCopied hc => exact .step (.deliver _ _ _) hc
  | nested _ _ ih => simpa [Record.events] using ih

end Upkeep
