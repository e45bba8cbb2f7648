import Upkeep.Auth.Prompter

/-!
Answering the challenges of a server while it authenticates a user. After the first fault nobody is
asked again: that challenge and all later ones get no answers, and the fault is kept.
-/

set_option autoImplicit false

namespace Upkeep.Remote

variable {σ : Type}

structure Question where
  text : String
  /-- Whether the answer may be seen while it is typed. -/
  echo : Bool
  deriving DecidableEq, Repr

structure Challenge where
  user : String
  instruction : String
  questions : List Question
  deriving DecidableEq, Repr

/-- The answers to one challenge, and the fault that is kept after it. -/
structure Answered where
  answers : List String
  fault : Option Fault
  deriving DecidableEq, Repr

def answer (prompter : Prompter σ) (kept : Option Fault) (c : Challenge) (s : σ) : Answered × σ :=
  match kept with
  | some f => (⟨[], some f⟩, s)
  | none =>
    let texts := c.questions.map Question.text
    let echoes := c.questions.map Question.echo
    match prompter.answers c.user c.instruction texts echoes s with
    | (.ok answers, s') => (⟨answers, none⟩, s')
    | (.error f, s') => (⟨[], some f⟩, s')

def answerAll (prompter : Prompter σ) (kept : Option Fault) :
    List Challenge → σ → List Answered × σ
  | [], s => ([], s)
  | c :: cs, s =>
    match answer prompter kept c s with
    | (a, s') =>
      match answerAll prompter a.fault cs s' with
      | (as, s'') => (a :: as, s'')

end Upkeep.Remote
