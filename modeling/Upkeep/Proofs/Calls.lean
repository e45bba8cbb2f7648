import Upkeep.Proofs.Record

/-!
The evaluator touches a machine by the operations of its target only. A step on the world uses a
target if calls to it, in some order, lead wherever the step leads.
-/

set_option autoImplicit false

namespace Upkeep

variable {σ α β : Type}

inductive Call where
  | openRead (path : String)
  | openWrite (path : String)
  | write (path : String) (block : Bytes)
  | finish (path : String)
  | digest (path : String)
  | search (path pattern : String)
  deriving DecidableEq, Repr

/-- The call after which a file is meant to be there. -/
def Call.Finishes : Call → Prop
  | .finish _ => True
  | _ => False

def Call.Writes : Call → Prop
  | .openWrite _ | .write _ _ | .finish _ => True
  | .openRead _ | .digest _ | .search _ _ => False

theorem Call.writes_of_finishes {call : Call} (h : call.Finishes) : call.Writes := by
  cases call with
  | finish => trivial
  | openRead | openWrite | write | digest | search => exact h.elim

namespace Target

/-- A call leads from one world to another. Blocks are written to sinks that have been opened. -/
inductive Performs (t : Target σ) : Call → σ → σ → Prop where
  | openRead (path : String) (s : σ) : t.Performs (.openRead path) s (t.openRead path s).2
  | openWrite (path : String) (s : σ) : t.Performs (.openWrite path) s (t.openWrite path s).2
  | write {path : String} {sink : Sink σ} {s₀ s₁ : σ} (block : Bytes) (s : σ) :
      t.openWrite path s₀ = (.ok sink, s₁) →
      t.Performs (.write path block) s (sink.write block s).2
  | finish {path : String} {sink : Sink σ} {s₀ s₁ : σ} (s : σ) :
      t.openWrite path s₀ = (.ok sink, s₁) → t.Performs (.finish path) s (sink.finish s).2
  | digest (path : String) (s : σ) : t.Performs (.digest path) s (t.digest path s).2
  | search (path pattern : String) (s : σ) :
      t.Performs (.search path pattern) s (t.search path pattern s).2

inductive PerformsAll (t : Target σ) : List Call → σ → σ → Prop where
  | nil {s : σ} : t.PerformsAll [] s s
  | cons {call : Call} {calls : List Call} {s s₁ s' : σ} :
      t.Performs call s s₁ → t.PerformsAll calls s₁ s' → t.PerformsAll (call :: calls) s s'

theorem Performs.single {t : Target σ} {call : Call} {s s' : σ} (h : t.Performs call s s') :
    t.PerformsAll [call] s s' := .cons h .nil

theorem PerformsAll.append {t : Target σ} {calls calls' : List Call} {s s₁ s' : σ}
    (h : t.PerformsAll calls s s₁) (h' : t.PerformsAll calls' s₁ s') :
    t.PerformsAll (calls ++ calls') s s' := by
  induction h with
  | nil => exact h'
  | cons hcall _ ih => exact .cons hcall (ih h')

end Target

/-- Wherever the step leads, allowed calls lead too. -/
def Op.Uses (t : Target σ) (allowed : Call → Prop) (op : Op σ α) : Prop :=
  ∀ s, ∃ calls, t.PerformsAll calls s (op s).2 ∧ ∀ call ∈ calls, allowed call

namespace Op.Uses

variable {t : Target σ} {allowed : Call → Prop}

theorem mono {allowed' : Call → Prop} {op : Op σ α} (h : Op.Uses t allowed op)
    (hle : ∀ call, allowed call → allowed' call) : Op.Uses t allowed' op := by
  intro s
  obtain ⟨calls, hcalls, hall⟩ := h s
  exact ⟨calls, hcalls, fun call hcall => hle call (hall call hcall)⟩

/-- What does not write does not finish anything. -/
theorem quiet {op : Op σ α} (h : Op.Uses t (¬ ·.Writes) op) : Op.Uses t (¬ ·.Finishes) op :=
  h.mono fun _ hwrites hfinishes => hwrites (Call.writes_of_finishes hfinishes)

theorem one {call : Call} {op : Op σ α} (h : ∀ s, t.Performs call s (op s).2)
    (hcall : allowed call) : Op.Uses t allowed op :=
  fun s => ⟨[call], (h s).single, by simpa using hcall⟩

theorem pure (x : α) : Op.Uses t allowed (Pure.pure x) := fun _ => ⟨[], .nil, by simp⟩

theorem look (f : σ → Except Fault α) : Op.Uses t allowed (Op.look f) :=
  fun _ => ⟨[], .nil, by simp⟩

theorem fail (f : Fault) : Op.Uses t allowed (Op.fail f : Op σ α) := fun _ => ⟨[], .nil, by simp⟩

theorem bind {op : Op σ α} {next : α → Op σ β} (hop : Op.Uses t allowed op)
    (hnext : ∀ x s s', op s = (.ok x, s') → Op.Uses t allowed (next x)) :
    Op.Uses t allowed (op >>= next) := by
  intro s
  obtain ⟨calls, hcalls, hall⟩ := hop s
  rw [Op.bind_apply]
  rcases h : op s with ⟨f | x, s₁⟩
  · exact ⟨calls, by simpa [h] using hcalls, hall⟩
  · obtain ⟨calls', hcalls', hall'⟩ := hnext x s s₁ h s₁
    rw [h] at hcalls
    refine ⟨calls ++ calls', hcalls.append hcalls', fun call hcall => ?_⟩
    exact (List.mem_append.mp hcall).elim (hall call) (hall' call)

/-! ### Checks and copies -/

theorem present (path : String) : Op.Uses t (¬ ·.Writes) (t.exists path) := by
  intro s
  refine ⟨[.openRead path], ?_, by simp [Call.Writes]⟩
  have hopen := (Target.Performs.openRead (t := t) path s).single
  unfold Target.exists
  rcases h : t.openRead path s with ⟨f | _, s'⟩ <;> simpa [h] using hopen

theorem digest (path : String) : Op.Uses t (¬ ·.Writes) (t.digest path) :=
  .one (.digest path) id

theorem send {path : String} {sink : Sink σ} {s₀ s₁ : σ}
    (hopen : t.openWrite path s₀ = (.ok sink, s₁)) (blocks : List Bytes) :
    Op.Uses t (¬ ·.Finishes) (sink.send blocks) := by
  induction blocks with
  | nil => exact pure ()
  | cons block blocks ih =>
    exact bind (.one (fun s => .write block s hopen) id) fun _ _ _ _ => ih

/-- Nothing is written to find out whether a condition holds. -/
theorem check (disk : σ → Disk) (c : Condition) :
    Op.Uses t (¬ ·.Writes) (c.check disk t) := by
  unfold Condition.check
  cases c.kind with
  | fileExists => exact present c.filePath
  | fileAbsent => exact bind (present c.filePath) fun holds _ _ _ => pure _
  | hashEquals => exact bind (digest c.filePath) fun _ _ _ _ => pure _
  | matchesLocalFile =>
    refine bind (present c.filePath) fun there _ _ _ => ?_
    cases there with
    | true => exact bind (look _) fun _ _ _ _ => bind (digest c.filePath) fun _ _ _ _ => pure _
    | false => exact pure _
  | regexMatches => exact .one (.search c.filePath c.regex) id
  | unknown kind => exact fail _

theorem deliver (disk : σ → Disk) (source destination : String) :
    Op.Uses t (fun _ => True) (deliver disk t source destination) := by
  refine bind (look _) fun loc _ _ _ =>
    bind (.one (.openWrite destination) trivial) fun sink _ _ hopen => ?_
  refine bind (look _) fun content _ _ _ =>
    bind ((send hopen _).mono fun _ _ => trivial) fun _ _ _ _ => ?_
  exact bind (.one (fun s => .finish s hopen) trivial) fun _ _ _ _ => pure _

/-! ### What calls keep -/

theorem keeps {P : σ → Prop} {op : Op σ α} (hop : op.Uses t allowed)
    (hP : ∀ {call s s'}, t.Performs call s s' → allowed call → P s → P s') {s s' : σ}
    {r : Except Fault α} (h : op s = (r, s')) (hs : P s) : P s' := by
  have hall {calls : List Call} {s s' : σ} (hcalls : t.PerformsAll calls s s')
      (hallowed : ∀ call ∈ calls, allowed call) (hs : P s) : P s' := by
    induction hcalls with
    | nil => exact hs
    | cons hcall _ ih =>
      obtain ⟨hfirst, hrest⟩ := List.forall_mem_cons.mp hallowed
      exact ih hrest (hP hcall hfirst hs)
  obtain ⟨calls, hcalls, hallowed⟩ := hop s
  rw [h] at hcalls
  exact hall hcalls hallowed hs

end Op.Uses

/-- What every call keeps, whatever is evaluated keeps. -/
theorem Recorded.keeps {disk : σ → Disk} {t : Target σ} {P : σ → Prop}
    (hP : ∀ {call s s'}, t.Performs call s s' → P s → P s') {d : Nat} {task : Task} {s s' : σ}
    {record : Record} {r : Except Fault Unit} (h : Recorded disk t d task s record r s')
    (hs : P s) : P s' := by
  induction h with
  | done | unset | fail | tooDeep | unrecognised => exact hs
  | next _ _ ihFirst ihRest => exact ihRest (ihFirst hs)
  | stop _ ih | nested _ _ ih => exact ih hs
  | unanswered hc | holds hc => exact (Op.Uses.check _ _).keeps (fun hcall _ => hP hcall) hc hs
  | remedied hc _ ih => exact ih ((Op.Uses.check _ _).keeps (fun hcall _ => hP hcall) hc hs)
  | copied hc | notCopied hc =>
    exact (Op.Uses.deliver _ _ _).keeps (fun hcall _ => hP hcall) hc hs

end Upkeep
