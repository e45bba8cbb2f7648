import Upkeep.Proofs.Record
import Upkeep.Run.Machines

/-!
The evaluator leaves records. Whatever a step of it does to a run under way is what the rules say of
its task: the world and the result are those of the record, and what it reports is the events of the
record. The depth is left as it was.
-/

set_option autoImplicit false

namespace Upkeep

variable {σ : Type}

/-- At this depth, a step does what the rules say of a task. -/
def Step.Follows (disk : σ → Disk) (t : Target σ) (d : Nat) (task : Task) (step : Step σ Unit) :
    Prop :=
  ∀ s events notes, ∃ record r s' notes', Recorded disk t d task s record r s' ∧
    step ⟨s, d, events, notes⟩ = (r, ⟨s', d, events ++ record.events, notes'⟩)

namespace Step.Follows

variable {disk : σ → Disk} {t : Target σ} {d : Nat}

theorem nothing : Step.Follows disk t d (.inTurn []) (pure ()) := by
  intro s events notes
  exact ⟨_, _, _, notes, .done, by simp [Op.pure_apply, Record.events]⟩

theorem cons {task : Task} {tasks : List Task} {first rest : Step σ Unit}
    (hfirst : Step.Follows disk t d task first)
    (hrest : Step.Follows disk t d (.inTurn tasks) rest) :
    Step.Follows disk t d (.inTurn (task :: tasks)) (first >>= fun _ => rest) := by
  intro s events notes
  obtain ⟨record, r, s₁, notes₁, hrec, hstep⟩ := hfirst s events notes
  cases r with
  | error f => exact ⟨_, _, _, notes₁, .stop hrec, by rw [Op.bind_apply, hstep]⟩
  | ok =>
    obtain ⟨record', r', s', notes', hrec', hstep'⟩ := hrest s₁ (events ++ record.events) notes₁
    refine ⟨_, _, _, notes', .next hrec hrec', ?_⟩
    simp [Op.bind_apply, hstep, hstep']

/-! ### Actions -/

variable {nested : String → Named Assertion → Step σ Unit}

theorem take (hnested : ∀ parent assertions,
      Step.Follows disk t d (.action parent (.assert assertions)) (nested parent assertions))
    (parent : String) (x : Action) :
    Step.Follows disk t d (.action parent x) (x.takeWith nested disk t parent) := by
  intro s events notes
  cases x with
  | unset =>
    exact ⟨_, _, _, notes, .unset, by simp [Action.takeWith, Op.pure_apply, Record.events]⟩
  | fail => exact ⟨_, _, _, notes, .fail, by simp [Action.takeWith, Op.fail, Record.events]⟩
  | copyFile source destination =>
    rcases hc : deliver disk t source destination s with ⟨f | size, s'⟩
    · refine ⟨_, _, _, notes, .notCopied hc, ?_⟩
      simp [Action.takeWith, Op.bind_apply, Step.ofOp, Op.on, hc, Record.events]
    · refine ⟨_, _, _, notes ++ [⟨.info, copiedMessage t.name source destination size⟩],
        .copied hc, ?_⟩
      simp [Action.takeWith, Op.bind_apply, Step.ofOp, Op.on, hc, Step.note, Progress.note,
        Record.events]
  | assert assertions => exact hnested parent assertions s events notes
  | unrecognised kind =>
    exact ⟨_, _, _, notes, .unrecognised, by simp [Action.takeWith, Op.fail, Record.events]⟩

theorem takeAll (hnested : ∀ parent assertions,
      Step.Follows disk t d (.action parent (.assert assertions)) (nested parent assertions))
    (parent : String) (xs : List Action) :
    Step.Follows disk t d (.inTurn (xs.map (.action parent)))
      (takeAll (Action.takeWith nested disk t parent) xs) := by
  induction xs with
  | nil => exact nothing
  | cons x xs ih => exact cons (take hnested parent x) ih

end Step.Follows

/-! ### Assertions -/

/-- Evaluates an assertion, which is reported before and after. -/
def Assertion.reportedWith (nested : String → Named Assertion → Step σ Unit) (disk : σ → Disk)
    (t : Target σ) (group name : String) (a : Assertion) : Step σ Unit := fun p =>
  match a.evaluateWith nested disk t group name (p.report (.started group name)) with
  | (e, p') => (e.result.map fun _ => (), p'.report (.ended group name e))

theorem evaluateAllWith_cons (nested : String → Named Assertion → Step σ Unit) (disk : σ → Disk)
    (t : Target σ) (group name : String) (a : Assertion) (as : List (String × Assertion)) :
    evaluateAllWith nested disk t group ((name, a) :: as) =
      (a.reportedWith nested disk t group name >>= fun _ =>
        evaluateAllWith nested disk t group as) := by
  funext p
  rcases he : a.evaluateWith nested disk t group name (p.report (.started group name)) with ⟨e, p'⟩
  cases hf : e.fault <;>
    simp [Op.bind_apply, evaluateAllWith, Assertion.reportedWith, he, Evaluation.result, hf,
      Except.map]

namespace Step.Follows

variable {disk : σ → Disk} {t : Target σ} {d : Nat}
  {nested : String → Named Assertion → Step σ Unit}

theorem reported (hnested : ∀ parent assertions,
      Step.Follows disk t d (.action parent (.assert assertions)) (nested parent assertions))
    (group name : String) (a : Assertion) :
    Step.Follows disk t d (.assertion group name a)
      (a.reportedWith nested disk t group name) := by
  intro s events notes
  rcases hc : a.condition.check disk t s with ⟨f | holds, s₁⟩
  · refine ⟨_, _, _, notes, .unanswered hc, ?_⟩
    simp [Assertion.reportedWith, Assertion.evaluateWith, Step.ofOp, Op.on, Progress.report, hc,
      Evaluation.result, Except.map, Record.events]
  cases holds with
  | true =>
    refine ⟨_, _, _, notes, .holds hc, ?_⟩
    simp [Assertion.reportedWith, Assertion.evaluateWith, Step.ofOp, Op.on, Progress.report, hc,
      Evaluation.result, Except.map, Record.events]
  | false =>
    obtain ⟨remedy, r, s', notes', hrec, hstep⟩ :=
      takeAll hnested (nestedName group name) a.actions s₁ (events ++ [.started group name]) notes
    refine ⟨_, _, _, notes', .remedied hc hrec, ?_⟩
    cases r <;>
      simp [Assertion.reportedWith, Assertion.evaluateWith, Step.ofOp, Op.on, Progress.report, hc,
        hstep, Evaluation.ofRemedy, Evaluation.result, Except.map, Record.events]

theorem all (hnested : ∀ parent assertions,
      Step.Follows disk t d (.action parent (.assert assertions)) (nested parent assertions))
    (group : String) (as : List (String × Assertion)) :
    Step.Follows disk t d (.inTurn (as.map fun (name, a) => .assertion group name a))
      (evaluateAllWith nested disk t group as) := by
  induction as with
  | nil => exact nothing
  | cons first as ih =>
    obtain ⟨name, a⟩ := first
    rw [evaluateAllWith_cons]
    exact cons (reported hnested group name a) ih

theorem evaluateNested {levels : Nat} (hd : maxNesting ≤ d + levels) (parent : String)
    (assertions : Named Assertion) :
    Step.Follows disk t d (.action parent (.assert assertions))
      (evaluateNested disk t levels parent assertions) := by
  -- A level less is left at a depth that is one more, so they do not run out before the limit.
  induction levels generalizing d parent assertions with
  | zero =>
    intro s events notes
    exact ⟨_, _, _, notes, .tooDeep hd, by simp [Upkeep.evaluateNested, Op.fail, Record.events]⟩
  | succ levels ih =>
    intro s events notes
    by_cases hdeep : maxNesting ≤ d
    · exact ⟨_, _, _, notes, .tooDeep hdeep, by simp [Upkeep.evaluateNested, hdeep, Record.events]⟩
    have hset : Step.Follows disk t (d + 1) (.set parent assertions) _ :=
      all (fun parent assertions => ih (by omega) parent assertions) parent (sorted assertions)
    obtain ⟨record, r, s', notes', hrec, hstep⟩ := hset s events notes
    refine ⟨_, _, _, notes', .nested (by omega) hrec, ?_⟩
    simp [Upkeep.evaluateNested, hdeep, Step.deeper, hstep, Record.events]

/-- All levels are left to begin with, however deep the run is then. -/
theorem nestedSet (parent : String) (assertions : Named Assertion) :
    Step.Follows disk t d (.action parent (.assert assertions))
      (Upkeep.evaluateNested disk t maxNesting parent assertions) :=
  evaluateNested (Nat.le_add_left maxNesting d) parent assertions

theorem evaluateAll (group : String) (assertions : Named Assertion) :
    Step.Follows disk t d (.set group assertions) (evaluateAll disk t group assertions) :=
  all nestedSet group (sorted assertions)

theorem evaluateGroups (gs : List Group) :
    Step.Follows disk t d (.groups gs) (evaluateGroups disk t gs) := by
  induction gs with
  | nil => exact nothing
  | cons g gs ih => exact cons (evaluateAll g.name g.assertions) ih

end Step.Follows

end Upkeep
