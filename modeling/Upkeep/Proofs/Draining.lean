import Mathlib.Data.List.Induction
import Upkeep.Remote.Drain

/-!
Draining two pipes. What happens is a log of the reads that are made: they go from one pipe to the
other as long as both are open, each gives what comes next on its pipe, and one that gives nothing
is followed by the question whether the other side is done. Where the answer is yes in the end, there
are only so many reads. The bytes collected from a pipe are those that its reads have given, and the
first read that fails is the last one.
-/

set_option autoImplicit false

namespace Upkeep.Remote

/-! ### Logs -/

inductive Side where
  | output
  | complaint
  deriving DecidableEq, Repr

def Side.other : Side → Side
  | .output => .complaint
  | .complaint => .output

def Read.bytes : Read → Bytes
  | .data bs => bs
  | .notReady | .broken _ => []

structure Reading where
  side : Side
  gave : Read
  /-- Whether the other side is done, where that has been asked. -/
  answer : Option Bool
  deriving DecidableEq, Repr

abbrev Log := List Reading

namespace Log

def readsOf (s : Side) (log : Log) : List Read := (log.filter fun x => x.side = s).map (·.gave)

def bytesOf (s : Side) (log : Log) : Bytes := (readsOf s log).flatMap Read.bytes

def answers (log : Log) : List Bool := log.filterMap (·.answer)

/-- A pipe has ended when a read has given nothing and the other side is done. -/
def ended (s : Side) (log : Log) : Bool := log.any fun x => x.side = s && x.answer = some true

def Sound (log : Log) : Prop := ∀ x ∈ log, ∀ cause, x.gave ≠ .broken cause

/-- Which pipe is to be read next: the output first, and then the one that has not been read last,
unless that has ended. -/
def due (log : Log) : Side :=
  match log.getLast? with
  | none => .output
  | some x => if ended x.side.other log then x.side else x.side.other

end Log

/-- The logs that can come about, where these are the reads of the pipes and the first answers. A
pipe gives nothing after its reads, and the answer is yes after the first ones. -/
inductive Course (script : Side → List Read) (first : List Bool) : Log → Prop where
  | nil : Course script first []
  | snoc {log : Log} {x : Reading} :
      Course script first log → log.Sound → x.side = log.due → log.ended x.side = false →
      x.gave = (script x.side)[(log.readsOf x.side).length]?.getD (.data []) →
      x.answer =
        (if x.gave = .data [] then some (first[log.answers.length]?.getD true) else none) →
      Course script first (log ++ [x])

namespace Log

theorem readsOf_append (s : Side) (log log' : Log) :
    readsOf s (log ++ log') = readsOf s log ++ readsOf s log' := by
  simp [readsOf]

theorem bytesOf_append (s : Side) (log log' : Log) :
    bytesOf s (log ++ log') = bytesOf s log ++ bytesOf s log' := by
  simp [bytesOf, readsOf_append]

@[simp] theorem readsOf_snoc (s : Side) (log : Log) (x : Reading) :
    readsOf s (log ++ [x]) = readsOf s log ++ if x.side = s then [x.gave] else [] := by
  by_cases h : x.side = s <;> simp [readsOf, h]

@[simp] theorem bytesOf_snoc (s : Side) (log : Log) (x : Reading) :
    bytesOf s (log ++ [x]) = bytesOf s log ++ if x.side = s then x.gave.bytes else [] := by
  by_cases h : x.side = s <;> simp [bytesOf, h]

@[simp] theorem answers_snoc (log : Log) (x : Reading) :
    answers (log ++ [x]) = answers log ++ x.answer.toList := by
  cases h : x.answer <;> simp [answers, h]

@[simp] theorem ended_snoc (s : Side) (log : Log) (x : Reading) :
    ended s (log ++ [x]) = (ended s log || (x.side = s && x.answer = some true)) := by
  simp [ended]

theorem due_snoc (log : Log) (x : Reading) :
    due (log ++ [x]) = if ended x.side.other (log ++ [x]) then x.side else x.side.other := by
  simp [due]

end Log

/-! ### Courses -/

theorem Side.other_other (s : Side) : s.other.other = s := by cases s <;> rfl

theorem Side.eq_other {s t : Side} (h : t ≠ s) : t = s.other := by
  cases s <;> cases t <;> simp_all [Side.other]

namespace Course

variable {script : Side → List Read} {first : List Bool} {log log' : Log} {x y : Reading}

theorem before (h : Course script first (log ++ [x])) : Course script first log := by
  generalize hl : log ++ [x] = l at h
  cases h with
  | nil => simp at hl
  | snoc hc => exact (List.append_inj' hl rfl).1 ▸ hc

theorem last (h : Course script first (log ++ [x])) :
    log.Sound ∧ x.side = log.due ∧ log.ended x.side = false ∧
      x.gave = (script x.side)[(log.readsOf x.side).length]?.getD (.data []) ∧
      x.answer =
        if x.gave = .data [] then some (first[log.answers.length]?.getD true) else none := by
  generalize hl : log ++ [x] = l at h
  cases h with
  | nil => simp at hl
  | snoc _ hs hd he hg ha =>
    obtain ⟨rfl, hx⟩ := List.append_inj' hl rfl
    cases hx
    exact ⟨hs, hd, he, hg, ha⟩

theorem of_append (h : Course script first (log ++ log')) : Course script first log := by
  induction log' using List.reverseRecOn with
  | nil => simpa using h
  | append_singleton l x ih =>
    apply ih
    rw [← List.append_assoc] at h
    exact h.before

/-- What has been read so far says what comes next. -/
theorem last_unique (hx : Course script first (log ++ [x])) (hy : Course script first (log ++ [y])) :
    x = y := by
  obtain ⟨-, hxs, -, hxg, hxa⟩ := hx.last
  obtain ⟨-, hys, -, hyg, hya⟩ := hy.last
  have hs : x.side = y.side := hxs.trans hys.symm
  have hg : x.gave = y.gave := by rw [hxg, hyg, hs]
  have ha : x.answer = y.answer := by rw [hxa, hya, hg]
  cases x
  cases y
  simp_all

/-- All courses are parts of one that cannot go on. -/
theorem prefix_of_stuck (h : Course script first log)
    (stuck : ∀ x, ¬ Course script first (log ++ [x])) (h' : Course script first log') :
    log' <+: log := by
  induction log' using List.reverseRecOn with
  | nil => exact List.nil_prefix
  | append_singleton l x ih =>
    obtain ⟨rest, rfl⟩ := ih h'.before
    cases rest with
    | nil =>
      rw [List.append_nil] at stuck
      exact absurd h' (stuck x)
    | cons y rest =>
      have hy : Course script first (l ++ [y]) := by
        refine @of_append _ _ _ rest ?_
        simpa using h
      rw [last_unique h' hy]
      exact ⟨rest, by simp⟩

/-- The reads of a pipe give what there is to be read, in order. -/
theorem readsOf_eq (h : Course script first log) (s : Side) :
    log.readsOf s =
      (List.range (log.readsOf s).length).map fun k => (script s)[k]?.getD (.data []) := by
  induction log using List.reverseRecOn with
  | nil => rfl
  | append_singleton l x ih =>
    have hg := h.last.2.2.2.1
    by_cases hs : x.side = s
    · subst hs
      rw [Log.readsOf_snoc, if_pos rfl, List.length_append, List.length_singleton,
        List.range_succ, List.map_append, ← ih h.before, hg]
      rfl
    · rw [Log.readsOf_snoc, if_neg hs, List.append_nil]
      exact ih h.before

/-- A pipe that has ended has done so at an empty read, and has not been read any more. -/
theorem ended_split (h : Course script first log) (s : Side) (he : log.ended s) :
    ∃ before x after, log = before ++ x :: after ∧ x.side = s ∧ x.gave = .data [] ∧
      x.answer = some true ∧ Log.ended s before = false ∧ Log.readsOf s after = [] := by
  induction log using List.reverseRecOn with
  | nil => simp [Log.ended] at he
  | append_singleton l x ih =>
    obtain ⟨-, -, hx, -, ha⟩ := h.last
    by_cases hl : Log.ended s l
    · obtain ⟨before, y, after, rfl, hs, hg, ht, hb, hr⟩ := ih h.before hl
      refine ⟨before, y, after ++ [x], by simp, hs, hg, ht, hb, ?_⟩
      have hne : x.side ≠ s := by
        rintro rfl
        rw [hl] at hx
        cases hx
      rw [Log.readsOf_snoc, hr, if_neg hne]
      rfl
    · rw [Log.ended_snoc, Bool.not_eq_true _ |>.mp hl, Bool.false_or] at he
      obtain ⟨hs, ht⟩ : x.side = s ∧ x.answer = some true := by simpa using he
      refine ⟨l, x, [], rfl, hs, ?_, ht, Bool.not_eq_true _ |>.mp hl, rfl⟩
      by_contra hg
      rw [if_neg hg, ht] at ha
      cases ha

end Course

/-! ### One read -/

namespace Answers

@[simp] theorem next_fst (a : Answers) : a.next.1 = a.first.head?.getD a.last := by
  unfold next
  cases a.first <;> rfl

@[simp] theorem next_first (a : Answers) : a.next.2.first = a.first.tail := by
  unfold next
  cases a.first <;> rfl

@[simp] theorem next_last (a : Answers) : a.next.2.last = a.last := by
  unfold next
  cases a.first <;> rfl

@[simp] theorem next_asked (a : Answers) : a.next.2.asked = a.asked + 1 := by
  unfold next
  cases a.first <;> rfl

end Answers

namespace Pipe

def next (p : Pipe) : Read := p.reads.head?.getD (.data [])

/-- An open pipe after its next read, by what the answer would be. -/
def afterNext (p : Pipe) (done : Bool) : Pipe :=
  ⟨p.reads.tail, p.received ++ p.next.bytes, !(p.next = .data [] && done)⟩

theorem take_closed {p : Pipe} (h : p.isOpen = false) (a : Answers) :
    p.take a = .ok ⟨false, p, a⟩ := by
  rw [take, h]
  rfl

theorem take_broken {p : Pipe} (h : p.isOpen) {cause : IoFault} (hb : p.next = .broken cause)
    (a : Answers) : p.take a = .error cause := by
  rw [take, if_pos h]
  rcases hr : p.reads with _ | ⟨⟨_ | ⟨b, bs⟩⟩ | _ | c, rest⟩ <;> simp_all [next]

theorem take_sound {p : Pipe} (h : p.isOpen) (hs : ∀ cause, p.next ≠ .broken cause)
    (a : Answers) :
    p.take a = .ok ⟨(p.next.bytes ≠ []), p.afterNext a.next.1,
      if p.next = .data [] then a.next.2 else a⟩ := by
  rw [take, if_pos h]
  rcases hr : p.reads with _ | ⟨⟨_ | ⟨b, bs⟩⟩ | _ | c, rest⟩ <;>
    simp_all [next, takeNothing, afterNext, Read.bytes]

end Pipe

/-! ### Rounds -/

namespace Drain

def pipe (d : Drain) : Side → Pipe
  | .output => d.output
  | .complaint => d.complaint

/-- The drain before its first round. -/
def start (script : Side → List Read) (first : List Bool) : Drain :=
  ⟨{ reads := script .output }, { reads := script .complaint }, { first := first, last := true }, 0⟩

def put (d : Drain) (s : Side) (t : Taken) : Drain :=
  match s with
  | .output => { d with output := t.pipe, answers := t.answers }
  | .complaint => { d with complaint := t.pipe, answers := t.answers }

@[simp] theorem put_pipe (d : Drain) (s : Side) (t : Taken) : (d.put s t).pipe s = t.pipe := by
  cases s <;> rfl

theorem put_pipe_of_ne (d : Drain) {s s' : Side} (h : s' ≠ s) (t : Taken) :
    (d.put s t).pipe s' = d.pipe s' := by
  cases s <;> cases s' <;> first | rfl | exact absurd rfl h

@[simp] theorem put_answers (d : Drain) (s : Side) (t : Taken) :
    (d.put s t).answers = t.answers := by
  cases s <;> rfl

/-- What the next read does to a pipe that is open, unless it fails. -/
def taken (d : Drain) (s : Side) : Taken :=
  ⟨(d.pipe s).next.bytes ≠ [], (d.pipe s).afterNext d.answers.next.1,
    if (d.pipe s).next = .data [] then d.answers.next.2 else d.answers⟩

def turn (d : Drain) (s : Side) : Except IoFault Drain :=
  ((d.pipe s).take d.answers).map (d.put s)

@[simp] theorem taken_last (d : Drain) (s : Side) :
    (d.taken s).answers.last = d.answers.last := by
  unfold taken
  split_ifs
  · exact d.answers.next_last
  · rfl

theorem turn_ok {d d' : Drain} {s : Side} (h : d.turn s = .ok d') :
    (d.pipe s).isOpen = false ∧ d' = d ∨
      (d.pipe s).isOpen ∧ (∀ cause, (d.pipe s).next ≠ .broken cause) ∧
        d' = d.put s (d.taken s) := by
  rw [turn] at h
  cases ho : (d.pipe s).isOpen with
  | false =>
    left
    rw [Pipe.take_closed ho] at h
    cases h
    cases s <;> exact ⟨rfl, rfl⟩
  | true =>
    right
    have hs : ∀ cause, (d.pipe s).next ≠ .broken cause := by
      intro cause hb
      rw [Pipe.take_broken ho hb] at h
      cases h
    rw [Pipe.take_sound ho hs] at h
    cases h
    exact ⟨rfl, hs, rfl⟩

theorem turn_error {d : Drain} {s : Side} {cause : IoFault} (h : d.turn s = .error cause) :
    (d.pipe s).isOpen ∧ (d.pipe s).next = .broken cause := by
  rw [turn] at h
  cases ho : (d.pipe s).isOpen with
  | false =>
    rw [Pipe.take_closed ho] at h
    cases h
  | true =>
    refine ⟨rfl, ?_⟩
    by_cases hs : ∀ cause, (d.pipe s).next ≠ .broken cause
    · rw [Pipe.take_sound ho hs] at h
      cases h
    · push Not at hs
      obtain ⟨cause', hb⟩ := hs
      rw [Pipe.take_broken ho hb] at h
      cases h
      exact hb

/-- The same but for the pauses. -/
def Alike (d d' : Drain) : Prop := d.pipe = d'.pipe ∧ d.answers = d'.answers

theorem round_ok {d d' : Drain} (h : d.round none = .ok d') :
    ∃ d₁ d₂, d.turn .output = .ok d₁ ∧ d₁.turn .complaint = .ok d₂ ∧ d₂.Alike d' := by
  simp only [round, isOverdue] at h
  cases ho : d.output.take d.answers with
  | error cause => simp [ho, bind, Except.bind] at h
  | ok o =>
    cases hc : d.complaint.take o.answers with
    | error cause => simp [ho, hc, bind, Except.bind] at h
    | ok c =>
      refine ⟨d.put .output o, (d.put .output o).put .complaint c, ?_, ?_, ?_⟩
      · simp [turn, pipe, ho, Except.map]
      · simp [turn, pipe, put, hc, Except.map]
      · simp only [ho, hc, bind, Except.bind] at h
        split_ifs at h <;> cases h <;> exact ⟨rfl, rfl⟩

theorem round_error {d : Drain} {cause : IoFault} (h : d.round none = .error cause) :
    d.turn .output = .error cause ∨
      ∃ d₁, d.turn .output = .ok d₁ ∧ d₁.turn .complaint = .error cause := by
  simp only [round, isOverdue] at h
  cases ho : d.output.take d.answers with
  | error cause' =>
    left
    simpa [ho, turn, pipe, Except.map, bind, Except.bind] using h
  | ok o =>
    right
    refine ⟨d.put .output o, by simp [turn, pipe, ho, Except.map], ?_⟩
    cases hc : d.complaint.take o.answers with
    | error cause' =>
      simpa [ho, hc, turn, pipe, put, Except.map, bind, Except.bind] using h
    | ok c =>
      simp only [ho, hc, bind, Except.bind, Bool.false_eq_true, if_false] at h
      split_ifs at h <;> cases h

/-! ### What a turn keeps -/

/-- How a drain stands when these reads have been made and it is the turn of that pipe. -/
structure Kept (script : Side → List Read) (first : List Bool) (s : Side) (log : Log)
    (d : Drain) : Prop where
  course : Course script first log
  sound : log.Sound
  due : (∃ t, log.ended t = false) → log.due = if log.ended s then s.other else s
  isOpen : ∀ t, (d.pipe t).isOpen = !log.ended t
  reads : ∀ t, (d.pipe t).reads = (script t).drop (log.readsOf t).length
  received : ∀ t, (d.pipe t).received = log.bytesOf t
  first : d.answers.first = first.drop log.answers.length
  last : d.answers.last = true
  asked : d.answers.asked = log.answers.length

variable {script : Side → List Read} {first : List Bool} {s : Side} {log : Log} {d d' : Drain}

theorem Kept.alike (h : Kept script first s log d) (e : d.Alike d') :
    Kept script first s log d' := by
  obtain ⟨hp, ha⟩ := e
  obtain ⟨h₁, h₂, h₃, h₄, h₅, h₆, h₇, h₈, h₉⟩ := h
  rw [hp] at h₄ h₅ h₆
  rw [ha] at h₇ h₈ h₉
  exact ⟨h₁, h₂, h₃, h₄, h₅, h₆, h₇, h₈, h₉⟩

theorem Kept.next (h : Kept script first s log d) :
    (d.pipe s).next = (script s)[(log.readsOf s).length]?.getD (.data []) := by
  rw [Pipe.next, h.reads, List.head?_drop]

theorem Kept.answer (h : Kept script first s log d) :
    d.answers.next.1 = first[log.answers.length]?.getD true := by
  rw [Answers.next_fst, h.first, h.last, List.head?_drop]

def reading (d : Drain) (s : Side) : Reading :=
  ⟨s, (d.pipe s).next, if (d.pipe s).next = .data [] then some d.answers.next.1 else none⟩

theorem Kept.course_snoc (h : Kept script first s log d) (ho : (d.pipe s).isOpen) :
    Course script first (log ++ [d.reading s]) := by
  have he : log.ended s = false := by simpa [h.isOpen] using ho
  apply Course.snoc h.course h.sound _ he h.next
  · rw [Drain.reading, h.answer]
  · rw [h.due ⟨s, he⟩, he]
    rfl

theorem Kept.closed (h : Kept script first s log d) (hc : (d.pipe s).isOpen = false) :
    Kept script first s.other log d := by
  have he : log.ended s := by simpa [h.isOpen] using hc
  refine { h with due := ?_ }
  rintro ⟨t, ht⟩
  -- the pipe that is still open is the other one
  have hts : t = s.other := by
    apply Side.eq_other
    rintro rfl
    rw [he] at ht
    cases ht
  subst hts
  rw [h.due ⟨_, ht⟩, he, ht]
  rfl

theorem Kept.put (h : Kept script first s log d) (ho : (d.pipe s).isOpen)
    (hs : ∀ cause, (d.pipe s).next ≠ .broken cause) :
    Kept script first s.other (log ++ [d.reading s]) (d.put s (d.taken s)) := by
  have hc := h.course_snoc ho
  have he : log.ended s = false := by simpa [h.isOpen] using ho
  have ne : ∀ {t : Side}, t ≠ s → ¬ (d.reading s).side = t := fun hne e => hne e.symm
  constructor
  case course => exact hc
  case sound =>
    intro y hy
    rcases List.mem_append.mp hy with hy | hy
    · exact h.sound y hy
    · cases List.mem_singleton.mp hy
      exact hs
  case due =>
    intro _
    rw [Log.due_snoc, Side.other_other]
    rfl
  case isOpen =>
    intro t
    by_cases ht : t = s
    · subst ht
      rw [put_pipe, Log.ended_snoc, he]
      simp only [taken, Pipe.afterNext, reading]
      split_ifs <;> simp_all
    · rw [put_pipe_of_ne d ht, Log.ended_snoc, h.isOpen, decide_eq_false (ne ht)]
      simp
  case reads =>
    intro t
    by_cases ht : t = s
    · subst ht
      simp [taken, Pipe.afterNext, reading, h.reads, List.tail_drop]
    · rw [put_pipe_of_ne d ht, Log.readsOf_snoc, if_neg (ne ht), List.append_nil, h.reads]
  case received =>
    intro t
    by_cases ht : t = s
    · subst ht
      simp [taken, Pipe.afterNext, reading, h.received]
    · rw [put_pipe_of_ne d ht, Log.bytesOf_snoc, if_neg (ne ht), List.append_nil, h.received]
  case first =>
    rw [put_answers, Log.answers_snoc]
    simp only [taken, reading]
    split_ifs <;> simp [h.first, List.tail_drop]
  case last => rw [put_answers, taken_last, h.last]
  case asked =>
    rw [put_answers, Log.answers_snoc]
    simp only [taken, reading]
    split_ifs <;> simp [h.asked]

theorem Kept.turn (h : Kept script first s log d) (ht : d.turn s = .ok d') :
    ∃ log', Kept script first s.other log' d' := by
  obtain ⟨hc, rfl⟩ | ⟨ho, hs, rfl⟩ := turn_ok ht
  · exact ⟨log, h.closed hc⟩
  · exact ⟨_, h.put ho hs⟩

theorem Kept.turn_error (h : Kept script first s log d) {cause : IoFault}
    (ht : d.turn s = .error cause) :
    ∃ before x, Course script first (before ++ [x]) ∧ x.gave = .broken cause := by
  obtain ⟨ho, hb⟩ := Drain.turn_error ht
  exact ⟨log, d.reading s, h.course_snoc ho, hb⟩

theorem Kept.round (h : Kept script first .output log d) (hr : d.round none = .ok d') :
    ∃ log', Kept script first .output log' d' := by
  obtain ⟨d₁, d₂, h₁, h₂, e⟩ := round_ok hr
  obtain ⟨log₁, k₁⟩ := h.turn h₁
  obtain ⟨log₂, k₂⟩ := k₁.turn h₂
  exact ⟨log₂, k₂.alike e⟩

theorem Kept.round_error (h : Kept script first .output log d) {cause : IoFault}
    (hr : d.round none = .error cause) :
    ∃ before x, Course script first (before ++ [x]) ∧ x.gave = .broken cause := by
  rcases Drain.round_error hr with h₁ | ⟨d₁, h₁, h₂⟩
  · exact h.turn_error h₁
  · obtain ⟨log₁, k₁⟩ := h.turn h₁
    exact k₁.turn_error h₂

/-! ### How long it takes -/

theorem remaining_eq (d : Drain) (s : Side) :
    d.remaining = (d.pipe s).reads.length + (d.pipe s).isOpen.toNat +
      ((d.pipe s.other).reads.length + (d.pipe s.other).isOpen.toNat) +
        d.answers.first.length := by
  cases s <;> simp only [remaining, pipe, Side.other] <;> omega

/-- With nothing left to be read, it is asked whether the other side is done; with no more such
answers to come, that closes the pipe. -/
theorem remaining_put (hl : d.answers.last = true) (ho : (d.pipe s).isOpen) :
    (d.put s (d.taken s)).remaining < d.remaining := by
  have hne : s.other ≠ s := by cases s <;> simp [Side.other]
  rw [remaining_eq d s, remaining_eq _ s, put_pipe_of_ne _ hne, put_pipe, put_answers, ho]
  have hb : ∀ b : Bool, b.toNat ≤ 1 := by decide
  have hf : (d.taken s).answers.first.length ≤ d.answers.first.length := by
    simp only [taken]
    split_ifs <;> simp
  cases hr : (d.pipe s).reads with
  | cons r rest =>
    have hp : (d.taken s).pipe.reads = rest := by simp [taken, Pipe.afterNext, hr]
    have := hb (d.taken s).pipe.isOpen
    simp only [hp, List.length_cons, Bool.toNat_true]
    omega
  | nil =>
    have hp : (d.taken s).pipe.reads = [] := by simp [taken, Pipe.afterNext, hr]
    have hn : (d.pipe s).next = .data [] := by simp [Pipe.next, hr]
    cases ha : d.answers.first with
    | nil =>
      have hc : (d.taken s).pipe.isOpen = false := by
        simp [taken, Pipe.afterNext, hn, ha, hl]
      have hf' : (d.taken s).answers.first = [] := by simp [taken, hn, ha]
      simp [hp, hc, hf']
    | cons b bs =>
      have hf' : (d.taken s).answers.first = bs := by simp [taken, hn, ha]
      have := hb (d.taken s).pipe.isOpen
      simp only [hp, hf', List.length_nil, List.length_cons, Bool.toNat_true]
      omega

theorem remaining_turn (hl : d.answers.last = true) (h : d.turn s = .ok d') :
    d'.answers.last = true ∧ d'.remaining ≤ d.remaining ∧
      ((d.pipe s).isOpen → d'.remaining < d.remaining) := by
  obtain ⟨hc, rfl⟩ | ⟨ho, -, rfl⟩ := turn_ok h
  · exact ⟨hl, Nat.le_refl _, by simp [hc]⟩
  · have hlt := remaining_put hl ho
    refine ⟨?_, Nat.le_of_lt hlt, fun _ => hlt⟩
    rw [put_answers, taken_last, hl]

theorem remaining_round (hl : d.answers.last = true) (hd : d.isDone = false)
    (h : d.round none = .ok d') : d'.remaining < d.remaining := by
  obtain ⟨d₁, d₂, h₁, h₂, hp, ha⟩ := round_ok h
  obtain ⟨hl₁, hle₁, hlt₁⟩ := remaining_turn hl h₁
  obtain ⟨-, hle₂, hlt₂⟩ := remaining_turn hl₁ h₂
  have he : d'.remaining = d₂.remaining := by
    rw [remaining_eq d' .output, remaining_eq d₂ .output, hp, ha]
  rw [he]
  cases ho : d.output.isOpen with
  | true => exact Nat.lt_of_le_of_lt hle₂ (hlt₁ ho)
  | false =>
    -- then nothing has happened yet when it is the turn of the other one, which is open
    obtain ⟨-, rfl⟩ | ⟨ho', -, -⟩ := turn_ok h₁
    · apply hlt₂
      simpa [isDone, ho, pipe] using hd
    · rw [pipe, ho] at ho'
      cases ho'

/-! ### Runs -/

/-- What becomes of a drain that is repeated round by round until both pipes have ended. -/
inductive Ends (timeout : Option Nat) : Drain → Except IoFault Drain → Prop where
  | done {d : Drain} : d.isDone → Ends timeout d (.ok d)
  | failed {d : Drain} {cause : IoFault} :
      d.isDone = false → d.round timeout = .error cause → Ends timeout d (.error cause)
  | again {d d' : Drain} {r : Except IoFault Drain} :
      d.isDone = false → d.round timeout = .ok d' → Ends timeout d' r → Ends timeout d r

structure Collected (script : Side → List Read) (log : Log) (d : Drain) : Prop where
  sound : log.Sound
  ended : ∀ s, ∃ before x after, log = before ++ x :: after ∧
    x.side = s ∧ x.gave = .data [] ∧ x.answer = some true ∧
    Log.ended s before = false ∧ Log.readsOf s after = [] ∧
    (d.pipe s).received = Log.bytesOf s before
  reads : ∀ s, (d.pipe s).reads = (script s).drop (log.readsOf s).length
  asked : d.answers.asked = log.answers.length

/-- What a drain comes to when these have been its reads. -/
inductive Outcome (script : Side → List Read) : Log → Except IoFault Drain → Prop where
  | collected {log : Log} {d : Drain} : Collected script log d → Outcome script log (.ok d)
  | failed {log : Log} {x : Reading} {cause : IoFault} :
      log.Sound → x.gave = .broken cause → Outcome script (log ++ [x]) (.error cause)

theorem Kept.collected (h : Kept script first s log d) (hd : d.isDone) :
    (∀ x, ¬ Course script first (log ++ [x])) ∧ Collected script log d := by
  have he : ∀ t, log.ended t := by
    have hc : ∀ t, (d.pipe t).isOpen = false := by
      intro t
      cases t <;> simp_all [isDone, pipe]
    intro t
    simpa [h.isOpen] using hc t
  constructor
  · intro x hx
    have hn := hx.last.2.2.1
    rw [he] at hn
    cases hn
  · refine ⟨h.sound, fun t => ?_, h.reads, h.asked⟩
    obtain ⟨before, x, after, rfl, hs, hg, ha, hb, hr⟩ := h.course.ended_split t (he t)
    refine ⟨before, x, after, rfl, hs, hg, ha, hb, hr, ?_⟩
    rw [h.received, List.append_cons, Log.bytesOf_append, Log.bytesOf_snoc, hg]
    simp [Log.bytesOf, hr, Read.bytes]

theorem Kept.run (h : Kept script first .output log d) :
    ∃ log' r, d.run none = some r ∧ Ends none d r ∧ Course script first log' ∧
      (∀ x, ¬ Course script first (log' ++ [x])) ∧ Outcome script log' r := by
  -- on what remains, which every round makes less, with the log as it is after each
  induction hn : d.remaining using Nat.strongRecOn generalizing log d with
  | _ n ih =>
  subst hn
  rw [Drain.run]
  cases hd : d.isDone with
  | true =>
    obtain ⟨stuck, hc⟩ := h.collected hd
    exact ⟨log, .ok d, rfl, .done hd, h.course, stuck, .collected hc⟩
  | false =>
    rw [if_neg Bool.false_ne_true]
    cases hr : d.round none with
    | error cause =>
      obtain ⟨before, x, hc, hb⟩ := h.round_error hr
      have hs := hc.last.1
      refine ⟨_, _, rfl, .failed hd hr, hc, ?_, .failed hs hb⟩
      -- nothing is read after a failure
      intro y hy
      exact hy.last.1 x (by simp) cause hb
    | ok d' =>
      have hlt := remaining_round h.last hd hr
      obtain ⟨log₁, k⟩ := h.round hr
      obtain ⟨log', r, he, hends, rest⟩ := ih _ hlt k rfl
      refine ⟨log', r, ?_, .again hd hr hends, rest⟩
      simp only [if_pos hlt]
      exact he

theorem kept_start (script : Side → List Read) (first : List Bool) :
    Kept script first .output [] (start script first) := by
  constructor
  case course => exact .nil
  case sound => exact List.forall_mem_nil _
  case due => exact fun _ => rfl
  case isOpen => exact fun t => by cases t <;> rfl
  case reads => exact fun t => by cases t <;> rfl
  case received => exact fun t => by cases t <;> rfl
  case first => rfl
  case last => rfl
  case asked => rfl

/-- A drain without a timeout always ends. What it has read by then is all that can be read, and
that is what it returns, or the first failure. -/
theorem run_collects (script : Side → List Read) (first : List Bool) :
    ∃ log r, (start script first).run none = some r ∧ Ends none (start script first) r ∧
      (∀ log', Course script first log' ↔ log' <+: log) ∧
      (∀ s, Log.readsOf s log =
        (List.range (Log.readsOf s log).length).map fun k => (script s)[k]?.getD (.data [])) ∧
      Outcome script log r := by
  obtain ⟨log, r, hr, he, hc, stuck, ho⟩ := (kept_start script first).run
  refine ⟨log, r, hr, he, fun log' => ⟨hc.prefix_of_stuck stuck, ?_⟩, hc.readsOf_eq, ho⟩
  rintro ⟨rest, rfl⟩
  exact hc.of_append

end Drain

end Upkeep.Remote
