import Upkeep.Run.Evaluate

/-!
Runs as trees. A record keeps what the events of a run leave out: what every check answered, which
actions were dispatched, and how each of them ended. `Recorded` says which record a task leaves on a
target. It is given by rules, one for each way in which an assertion or an action can go, and does
not speak of reporting; that the evaluator leaves such records is shown elsewhere.
-/

set_option autoImplicit false

namespace Upkeep

variable {σ : Type}

/-! ### Tasks -/

inductive Task where
  | assertion (group name : String) (a : Assertion)
  /-- An action of the assertion that is known as `parent`. -/
  | action (parent : String) (x : Action)
  /-- One after another, up to the first fault. -/
  | inTurn (tasks : List Task)

namespace Task

/-- A set of assertions, in its order. -/
def set (group : String) (assertions : Named Assertion) : Task :=
  .inTurn ((sorted assertions).map fun (name, a) => .assertion group name a)

/-- What is to be done where an assertion does not hold. Its sets are known by its group and its own
name. -/
def remedy (group name : String) (a : Assertion) : Task :=
  .inTurn (a.actions.map (.action (group ++ "/" ++ name)))

def groups (gs : List Group) : Task := .inTurn (gs.map fun g => .set g.name g.assertions)

end Task

/-! ### Records -/

/-- What happened, in order. Whatever happened within a part is kept with it, as a record of its
own; `rest` is what happened after. -/
inductive Record where
  | nothing
  | assertion (group name : String) (a : Assertion) (answer : Except Fault Bool) (remedy : Record)
      (e : Evaluation) (rest : Record)
  | action (parent : String) (x : Action) (within : Record) (result : Except Fault Unit)
      (rest : Record)

namespace Record

def append : Record → Record → Record
  | .nothing, after => after
  | .assertion group name a answer remedy e rest, after =>
    .assertion group name a answer remedy e (rest.append after)
  | .action parent x within result rest, after => .action parent x within result (rest.append after)

instance : Append Record := ⟨append⟩

@[simp] theorem nothing_append (after : Record) : .nothing ++ after = after := rfl

@[simp] theorem assertion_append (group name : String) (a : Assertion) (answer : Except Fault Bool)
    (remedy : Record) (e : Evaluation) (rest after : Record) :
    .assertion group name a answer remedy e rest ++ after =
      .assertion group name a answer remedy e (rest ++ after) := rfl

@[simp] theorem action_append (parent : String) (x : Action) (within : Record)
    (result : Except Fault Unit) (rest after : Record) :
    .action parent x within result rest ++ after = .action parent x within result (rest ++ after) :=
  rfl

@[simp] theorem append_nothing (record : Record) : record ++ .nothing = record := by
  induction record with
  | nothing => rfl
  | assertion group name a answer remedy e rest _ ih => rw [assertion_append, ih]
  | action parent x within result rest _ ih => rw [action_append, ih]

abbrev ofAssertion (group name : String) (a : Assertion) (answer : Except Fault Bool)
    (remedy : Record) (e : Evaluation) : Record :=
  .assertion group name a answer remedy e .nothing

abbrev ofAction (parent : String) (x : Action) (within : Record) (result : Except Fault Unit) :
    Record :=
  .action parent x within result .nothing

def events : Record → List Event
  | .nothing => []
  | .assertion group name _ _ remedy e rest =>
    .started group name :: (remedy.events ++ .ended group name e :: rest.events)
  | .action _ _ within _ rest => within.events ++ rest.events

@[simp] theorem events_append (first after : Record) :
    (first ++ after).events = first.events ++ after.events := by
  induction first with
  | nothing => rfl
  | assertion group name a answer remedy e rest _ ih => simp [events, ih]
  | action parent x within result rest _ ih => simp [events, ih]

end Record

/-! ### The rules -/

/-- How an assertion comes out whose actions end like this. -/
def Evaluation.ofRemedy : Except Fault Unit → Evaluation
  | .ok () => ⟨.applied, none⟩
  | .error f => ⟨.ofFault f, some f⟩

/-- At a depth in nested sets and from a world, a task leaves a record, and ends with a result in a
world. -/
inductive Recorded (disk : σ → Disk) (t : Target σ) :
    Nat → Task → σ → Record → Except Fault Unit → σ → Prop where
  | done {d : Nat} {s : σ} : Recorded disk t d (.inTurn []) s .nothing (.ok ()) s
  | next {d : Nat} {task : Task} {tasks : List Task} {s s₁ s' : σ} {first rest : Record}
      {r : Except Fault Unit} :
      Recorded disk t d task s first (.ok ()) s₁ →
      Recorded disk t d (.inTurn tasks) s₁ rest r s' →
      Recorded disk t d (.inTurn (task :: tasks)) s (first ++ rest) r s'
  | stop {d : Nat} {task : Task} {tasks : List Task} {s s' : σ} {record : Record} {f : Fault} :
      Recorded disk t d task s record (.error f) s' →
      Recorded disk t d (.inTurn (task :: tasks)) s record (.error f) s'
  | unanswered {d : Nat} {group name : String} {a : Assertion} {s s' : σ} {f : Fault} :
      a.condition.check disk t s = (.error f, s') →
      Recorded disk t d (.assertion group name a) s
        (.ofAssertion group name a (.error f) .nothing ⟨.error, some f⟩) (.error f) s'
  | holds {d : Nat} {group name : String} {a : Assertion} {s s' : σ} :
      a.condition.check disk t s = (.ok true, s') →
      Recorded disk t d (.assertion group name a) s
        (.ofAssertion group name a (.ok true) .nothing ⟨.noop, none⟩) (.ok ()) s'
  | remedied {d : Nat} {group name : String} {a : Assertion} {s s₁ s' : σ} {remedy : Record}
      {r : Except Fault Unit} :
      a.condition.check disk t s = (.ok false, s₁) →
      Recorded disk t d (.remedy group name a) s₁ remedy r s' →
      Recorded disk t d (.assertion group name a) s
        (.ofAssertion group name a (.ok false) remedy (.ofRemedy r)) r s'
  | unset {d : Nat} {parent : String} {s : σ} :
      Recorded disk t d (.action parent .unset) s (.ofAction parent .unset .nothing (.ok ()))
        (.ok ()) s
  | fail {d : Nat} {parent : String} {s : σ} :
      Recorded disk t d (.action parent .fail) s
        (.ofAction parent .fail .nothing (.error .assertionsFailed)) (.error .assertionsFailed) s
  | copied {d : Nat} {parent source destination : String} {s s' : σ} {size : Nat} :
      deliver disk t source destination s = (.ok size, s') →
      Recorded disk t d (.action parent (.copyFile source destination)) s
        (.ofAction parent (.copyFile source destination) .nothing (.ok ())) (.ok ()) s'
  | notCopied {d : Nat} {parent source destination : String} {s s' : σ} {f : Fault} :
      deliver disk t source destination s = (.error f, s') →
      Recorded disk t d (.action parent (.copyFile source destination)) s
        (.ofAction parent (.copyFile source destination) .nothing (.error f)) (.error f) s'
  | nested {d : Nat} {parent : String} {assertions : Named Assertion} {s s' : σ} {within : Record}
      {r : Except Fault Unit} :
      d < maxNesting →
      Recorded disk t (d + 1) (.set parent assertions) s within r s' →
      Recorded disk t d (.action parent (.assert assertions)) s
        (.ofAction parent (.assert assertions) within r) r s'
  | tooDeep {d : Nat} {parent : String} {assertions : Named Assertion} {s : σ} :
      maxNesting ≤ d →
      Recorded disk t d (.action parent (.assert assertions)) s
        (.ofAction parent (.assert assertions) .nothing (.error (.nestingTooDeep maxNesting)))
        (.error (.nestingTooDeep maxNesting)) s
  | unrecognised {d : Nat} {parent kind : String} {s : σ} :
      Recorded disk t d (.action parent (.unrecognised kind)) s
        (.ofAction parent (.unrecognised kind) .nothing (.error (.unrecognisedActionKind kind)))
        (.error (.unrecognisedActionKind kind)) s

/-- A task leaves one record only, and ends in one way. -/
theorem Recorded.unique {disk : σ → Disk} {t : Target σ} {d : Nat} {task : Task} {s s' s'' : σ}
    {record record' : Record} {r r' : Except Fault Unit}
    (h : Recorded disk t d task s record r s') (h' : Recorded disk t d task s record' r' s'') :
    record = record' ∧ r = r' ∧ s' = s'' := by
  induction h generalizing record' r' s'' with
  | done => cases h'; exact ⟨rfl, rfl, rfl⟩
  | next _ _ ihFirst ihRest =>
    cases h' with
    | next hfirst hrest =>
      obtain ⟨rfl, -, rfl⟩ := ihFirst hfirst
      obtain ⟨rfl, rfl, rfl⟩ := ihRest hrest
      exact ⟨rfl, rfl, rfl⟩
    | stop hstop => simpa using (ihFirst hstop).2.1
  | stop _ ih =>
    cases h' with
    | next hfirst _ => simpa using (ih hfirst).2.1
    | stop hstop => exact ih hstop
  | unanswered hc | holds hc =>
    cases h' <;> simp_all
  | remedied hc _ ih =>
    cases h' with
    | unanswered hc' => simp [hc] at hc'
    | holds hc' => simp [hc] at hc'
    | remedied hc' hremedy =>
      obtain rfl : _ = _ := by simpa [hc] using hc'
      obtain ⟨rfl, rfl, rfl⟩ := ih hremedy
      exact ⟨rfl, rfl, rfl⟩
  | unset | fail | unrecognised => cases h'; exact ⟨rfl, rfl, rfl⟩
  | copied hc | notCopied hc => cases h' <;> simp_all
  | nested hd _ ih =>
    cases h' with
    | nested _ hset =>
      obtain ⟨rfl, rfl, rfl⟩ := ih hset
      exact ⟨rfl, rfl, rfl⟩
    | tooDeep hd' => omega
  | tooDeep hd =>
    cases h' with
    | nested hd' _ => omega
    | tooDeep _ => exact ⟨rfl, rfl, rfl⟩

end Upkeep
