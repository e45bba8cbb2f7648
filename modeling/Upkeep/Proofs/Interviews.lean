import Upkeep.Remote.Challenges

/-!
Interviews. The challenges of a server are put to a prompter one after another, each once and as it
is, until one is refused. Nothing is asked after that, and the fault of the refusal is what is kept.
-/

set_option autoImplicit false

namespace Upkeep

variable {σ : Type}

/-! ### Forms -/

/-- What a prompter is told in one call. -/
structure Form where
  user : String
  instruction : String
  texts : List String
  echoes : List Bool
  deriving DecidableEq, Repr

def Prompter.fill (prompter : Prompter σ) (form : Form) : Op σ (List String) :=
  prompter.answers form.user form.instruction form.texts form.echoes

/-- The same prompter with a list of what it is told. -/
def Prompter.recorded (prompter : Prompter σ) : Prompter (σ × List Form) where
  password text := Op.on Prod.fst (fun s p => (s, p.2)) (prompter.password text)
  answers user instruction texts echoes := fun p =>
    let form : Form := ⟨user, instruction, texts, echoes⟩
    ((prompter.fill form p.1).1, (prompter.fill form p.1).2, p.2 ++ [form])

theorem Prompter.recorded_fill (prompter : Prompter σ) (form : Form) (s : σ) (told : List Form) :
    prompter.recorded.fill form (s, told) =
      ((prompter.fill form s).1, (prompter.fill form s).2, told ++ [form]) := rfl

namespace Remote

/-- A challenge with the texts and the echo flags of its questions apart. -/
def Challenge.form (c : Challenge) : Form :=
  ⟨c.user, c.instruction, c.questions.map Question.text, c.questions.map Question.echo⟩

theorem Challenge.form_zip (c : Challenge) :
    c.form.texts.length = c.form.echoes.length ∧
      List.zipWith Question.mk c.form.texts c.form.echoes = c.questions := by
  constructor
  · simp [form]
  · simp [form, List.zipWith_map, List.zipWith_self]

/-! ### Dialogues -/

/-- Each of these challenges is answered, and the answers are these. -/
inductive Dialogue (prompter : Prompter σ) :
    σ → List Challenge → List (List String) → σ → Prop where
  | nil {s : σ} : Dialogue prompter s [] [] s
  | cons {s s₁ s' : σ} {c : Challenge} {cs : List Challenge} {answers : List String}
      {rest : List (List String)} :
      prompter.fill c.form s = (.ok answers, s₁) → Dialogue prompter s₁ cs rest s' →
      Dialogue prompter s (c :: cs) (answers :: rest) s'

/-- How challenges come out: which of them are put to the prompter, what the server gets for each of
all of them, and which fault is kept in the end. -/
inductive Interview (prompter : Prompter σ) (s : σ) (cs : List Challenge) :
    List Challenge → List Answered → Option Fault → σ → Prop where
  | answered {replies : List (List String)} {s' : σ} :
      Dialogue prompter s cs replies s' →
      Interview prompter s cs cs (replies.map fun answers => ⟨answers, none⟩) none s'
  | refused {before after : List Challenge} {c : Challenge} {replies : List (List String)}
      {s₁ s' : σ} {f : Fault} :
      cs = before ++ c :: after → Dialogue prompter s before replies s₁ →
      prompter.fill c.form s₁ = (.error f, s') →
      Interview prompter s cs (before ++ [c])
        ((replies.map fun answers => ⟨answers, none⟩) ++ (c :: after).map fun _ => ⟨[], some f⟩)
        (some f) s'

/-- The fault that is kept after all challenges. -/
def keptAfter (kept : Option Fault) (answered : List Answered) : Option Fault :=
  (answered.getLast?.map Answered.fault).getD kept

variable {prompter : Prompter σ}

theorem answerAll_kept (f : Fault) (cs : List Challenge) (s : σ) :
    answerAll prompter (some f) cs s = (cs.map fun _ => ⟨[], some f⟩, s) := by
  induction cs with
  | nil => rfl
  | cons c cs ih =>
    rw [answerAll, answer]
    simp only
    rw [ih, List.map_cons]

theorem answer_none (prompter : Prompter σ) (c : Challenge) (s : σ) :
    answer prompter none c s =
      match prompter.fill c.form s with
      | (.ok answers, s') => (⟨answers, none⟩, s')
      | (.error f, s') => (⟨[], some f⟩, s') := rfl

theorem answerAll_answered {c : Challenge} {answers : List String} {s s₁ : σ}
    (h : prompter.fill c.form s = (.ok answers, s₁)) (cs : List Challenge) :
    answerAll prompter none (c :: cs) s =
      (⟨answers, none⟩ :: (answerAll prompter none cs s₁).1,
        (answerAll prompter none cs s₁).2) := by
  rw [answerAll, answer_none, h]

theorem answerAll_refused {c : Challenge} {f : Fault} {s s₁ : σ}
    (h : prompter.fill c.form s = (.error f, s₁)) (cs : List Challenge) :
    answerAll prompter none (c :: cs) s = ((c :: cs).map fun _ => ⟨[], some f⟩, s₁) := by
  rw [answerAll, answer_none, h]
  simp only
  rw [answerAll_kept, List.map_cons]

theorem Dialogue.answerAll_append {s s₁ : σ} {before : List Challenge}
    {replies : List (List String)} (h : Dialogue prompter s before replies s₁)
    (cs : List Challenge) :
    answerAll prompter none (before ++ cs) s =
      ((replies.map fun answers => ⟨answers, none⟩) ++ (answerAll prompter none cs s₁).1,
        (answerAll prompter none cs s₁).2) := by
  induction h with
  | nil => rfl
  | cons hc _ ih =>
    rw [List.cons_append, answerAll_answered hc, ih]
    rfl

theorem Dialogue.recorded {s s₁ : σ} {cs : List Challenge} {replies : List (List String)}
    (h : Dialogue prompter s cs replies s₁) (told : List Form) :
    Dialogue prompter.recorded (s, told) cs replies (s₁, told ++ cs.map Challenge.form) := by
  induction h generalizing told with
  | nil =>
    rw [List.map_nil, List.append_nil]
    exact .nil
  | @cons s s₁ s' c cs answers rest hc _ ih =>
    have hcall : prompter.recorded.fill c.form (s, told) =
        (.ok answers, s₁, told ++ [c.form]) := by
      rw [Prompter.recorded_fill, hc]
    have hrest := ih (told ++ [c.form])
    rw [List.append_assoc] at hrest
    exact .cons hcall hrest

namespace Interview

variable {s s' : σ} {cs asked : List Challenge} {answered : List Answered} {kept : Option Fault}

theorem answerAll_eq (h : Interview prompter s cs asked answered kept s') :
    answerAll prompter none cs s = (answered, s') := by
  cases h with
  | answered hall =>
    have hrun := hall.answerAll_append []
    rw [List.append_nil] at hrun
    rw [hrun, answerAll, List.append_nil]
  | refused hsplit hbefore hc => rw [hsplit, hbefore.answerAll_append, answerAll_refused hc]

theorem recorded (h : Interview prompter s cs asked answered kept s') (told : List Form) :
    Interview prompter.recorded (s, told) cs asked answered kept
      (s', told ++ asked.map Challenge.form) := by
  cases h with
  | answered hall => exact .answered (hall.recorded told)
  | @refused before after c replies s₁ s' f hsplit hbefore hc =>
    have hcall : prompter.recorded.fill c.form (s₁, told ++ before.map Challenge.form) =
        (.error f, s', told ++ before.map Challenge.form ++ [c.form]) := by
      rw [Prompter.recorded_fill, hc]
    rw [List.map_append, ← List.append_assoc]
    exact .refused hsplit (hbefore.recorded told) hcall

theorem keptAfter_eq (h : Interview prompter s cs asked answered kept s') :
    keptAfter none answered = kept := by
  cases h with
  | @answered replies s' hall =>
    rw [keptAfter, List.getLast?_map]
    cases replies.getLast? <;> rfl
  | @refused before after c replies s₁ s' f hsplit hbefore hc =>
    rw [keptAfter, List.getLast?_append, List.getLast?_map, List.getLast?_cons]
    rfl

theorem unique {asked' : List Challenge} {answered' : List Answered} {kept' : Option Fault}
    {s'' : σ} (h : Interview prompter s cs asked answered kept s')
    (h' : Interview prompter s cs asked' answered' kept' s'') : kept = kept' ∧ s' = s'' := by
  obtain ⟨rfl, rfl⟩ := Prod.mk.inj (h.answerAll_eq.symm.trans h'.answerAll_eq)
  exact ⟨h.keptAfter_eq.symm.trans h'.keptAfter_eq, rfl⟩

theorem kept_eq_none_iff (h : Interview prompter s cs asked answered kept s') :
    kept = none ↔ ∃ replies, Dialogue prompter s cs replies s' := by
  constructor
  · intro hkept
    cases h with
    | answered hall => exact ⟨_, hall⟩
    | refused => cases hkept
  · rintro ⟨replies, hall⟩
    exact (h.unique (.answered hall)).1

end Interview

/-- Challenges are all answered, or one of them is the first to be refused. -/
theorem exists_interview (prompter : Prompter σ) (cs : List Challenge) (s : σ) :
    ∃ asked answered kept s', Interview prompter s cs asked answered kept s' := by
  induction cs generalizing s with
  | nil => exact ⟨_, _, _, _, .answered .nil⟩
  | cons c cs ih =>
    rcases hc : prompter.fill c.form s with ⟨f | answers, s₁⟩
    · have hsplit : c :: cs = [] ++ c :: cs := rfl
      exact ⟨_, _, _, _, .refused hsplit .nil hc⟩
    · obtain ⟨asked, answered, kept, s', h⟩ := ih s₁
      cases h with
      | answered hall => exact ⟨_, _, _, _, .answered (.cons hc hall)⟩
      | @refused before after c' replies s₂ s' f hsplit hbefore hc' =>
        have hsplit' : c :: cs = (c :: before) ++ c' :: after := by rw [hsplit, List.cons_append]
        exact ⟨_, _, _, _, .refused hsplit' (.cons hc hbefore) hc'⟩

/-- The prompter is asked as in an interview. A list of what it is told, if one is kept, holds just
the challenges that have been put to it, in their order. -/
theorem answerAll_interview (prompter : Prompter σ) (cs : List Challenge) (s : σ) :
    ∃ asked answered kept s', Interview prompter s cs asked answered kept s' ∧
      answerAll prompter none cs s = (answered, s') ∧ keptAfter none answered = kept ∧
      (kept = none ↔ ∃ replies, Dialogue prompter s cs replies s') ∧
      answerAll prompter.recorded none cs (s, []) = (answered, s', asked.map Challenge.form) ∧
      ∀ c : Challenge, c.form.texts.length = c.form.echoes.length ∧
        List.zipWith Question.mk c.form.texts c.form.echoes = c.questions := by
  obtain ⟨asked, answered, kept, s', h⟩ := exists_interview prompter cs s
  refine ⟨asked, answered, kept, s', h, h.answerAll_eq, h.keptAfter_eq, ?_, ?_, ?_⟩
  · exact h.kept_eq_none_iff
  · exact (h.recorded []).answerAll_eq
  · exact Challenge.form_zip

end Remote

end Upkeep
