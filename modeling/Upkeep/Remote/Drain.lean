import Upkeep.Fault

/-!
Collecting the output of a command on two pipes that are read in turn without waiting. An empty
read ends a pipe only once the other side says that it is done. Where neither pipe brings anything
there is a pause, and after too many pauses in a row the command is given up.
-/

set_option autoImplicit false

namespace Upkeep.Remote

/-- What a read can give. One that is interrupted is not ready either. -/
inductive Read where
  | data (bs : Bytes)
  | notReady
  | broken (cause : IoFault)
  deriving DecidableEq, Repr

def readSize : Nat := 16384

def Read.ofChunk (chunk : Bytes) : List Read :=
  if chunk.isEmpty then [.data []] else (Bytes.blocks (readSize - 1) chunk).map .data

/-- What the other side says each time that it is asked whether it is done: at first this and that,
and then always the same. -/
structure Answers where
  first : List Bool
  last : Bool
  asked : Nat := 0
  deriving DecidableEq, Repr

def Answers.next (a : Answers) : Bool × Answers :=
  match a.first with
  | [] => (a.last, { a with asked := a.asked + 1 })
  | b :: bs => (b, { a with first := bs, asked := a.asked + 1 })

/-- A pipe with what its reads are going to give; after that they are empty. -/
structure Pipe where
  reads : List Read
  received : Bytes := []
  isOpen : Bool := true
  deriving DecidableEq, Repr

/-- What a read has done: whether anything came, and how pipe and answers stand then. -/
structure Taken where
  came : Bool
  pipe : Pipe
  answers : Answers

def Pipe.takeNothing (pipe : Pipe) (rest : List Read) (answers : Answers) : Taken :=
  let (done, answers) := answers.next
  ⟨false, { pipe with reads := rest, isOpen := !done }, answers⟩

/-- Reads an open pipe once; a closed one is left alone. -/
def Pipe.take (pipe : Pipe) (answers : Answers) : Except IoFault Taken :=
  if pipe.isOpen then
    match pipe.reads with
    | [] => .ok (pipe.takeNothing [] answers)
    | .data [] :: rest => .ok (pipe.takeNothing rest answers)
    | .data bs :: rest =>
      .ok ⟨true, { pipe with reads := rest, received := pipe.received ++ bs }, answers⟩
    | .notReady :: rest => .ok ⟨false, { pipe with reads := rest }, answers⟩
    | .broken cause :: _ => .error cause
  else .ok ⟨false, pipe, answers⟩

structure Drain where
  output : Pipe
  complaint : Pipe
  answers : Answers
  /-- Pauses since something came. -/
  pauses : Nat := 0

namespace Drain

def pauseLength : Nat := 5

def stoppedResponding : IoFault := .custom "remote command stopped responding"

/-- What is left to happen: reads, answers that may still change, and pipes to be closed. -/
def remaining (d : Drain) : Nat :=
  d.output.reads.length + d.complaint.reads.length + d.answers.first.length +
    d.output.isOpen.toNat + d.complaint.isOpen.toNat

def isDone (d : Drain) : Bool := !d.output.isOpen && !d.complaint.isOpen

/-- Whether so many milliseconds without anything are too long. -/
def isOverdue (timeout : Option Nat) (d : Drain) : Bool :=
  match timeout with
  | some limit => limit ≤ d.pauses * pauseLength
  | none => false

def round (timeout : Option Nat) (d : Drain) : Except IoFault Drain := do
  let output ← d.output.take d.answers
  let complaint ← d.complaint.take output.answers
  let d' : Drain := ⟨output.pipe, complaint.pipe, complaint.answers, d.pauses⟩
  if output.came || complaint.came then return { d' with pauses := 0 }
  else if d'.isDone then return d'
  else if d.isOverdue timeout then throw stoppedResponding
  else return { d' with pauses := d.pauses + 1 }

/-- Reads until both pipes have ended; `none` if they never do. When a round has changed nothing,
neither will any other, and only the timeout can end that. -/
def run (timeout : Option Nat) (d : Drain) : Option (Except IoFault Drain) :=
  if d.isDone then some (.ok d)
  else
    match d.round timeout with
    | .error cause => some (.error cause)
    | .ok d' =>
      if d'.remaining < d.remaining then run timeout d'
      else if timeout.isSome then some (.error stoppedResponding)
      else none
termination_by d.remaining

end Drain

end Upkeep.Remote
