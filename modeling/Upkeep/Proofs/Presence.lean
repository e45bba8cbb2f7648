import Upkeep.Proofs.Inquiries
import Upkeep.Remote.Host

/-!
Whether a file is there, at hand and over a session. The machine at hand opens the file, and the
reason of the system tells a file that is missing from one that may not be opened. A remote machine
is asked to print it, and the exit status is the same whatever the reason is. The two agree on files
that are missing and on files that can be read, and on nothing else.
-/

set_option autoImplicit false

namespace Upkeep

variable {σ τ : Type}

/-! ### What there may be -/

/-- What is at a path, for the user that asks. -/
inductive FileState where
  | absent
  | file (content : Bytes)
  /-- Can be opened, and not read. -/
  | directory
  /-- Is refused when it is opened, for want of permission or for whatever reason. -/
  | refused (cause : IoFault) (there : cause ≠ .noEntry)

/-- The user may not do that. -/
def IoFault.denied : IoFault := .system 13

namespace FileState

def opened : FileState → Except IoFault Unit
  | .absent => .error .noEntry
  | .file _ | .directory => .ok ()
  | .refused cause _ => .error cause

def read : FileState → Except IoFault Bytes
  | .absent => .error .noEntry
  | .file content => .ok content
  | .directory => .error .isDirectory
  | .refused cause _ => .error cause

def isReadable : FileState → Bool
  | .file _ => true
  | .absent | .directory | .refused _ _ => false

/-- Whether a file is there, for one who opens it. -/
def found : FileState → Except Fault Bool
  | .absent => .ok false
  | .file _ | .directory => .ok true
  | .refused cause _ => .error (.io cause)

/-- How the command that prints a file ends: well if it has read it, and with status 1 and the
reason if it has not. -/
def Printed (st : FileState) (reply : Remote.Reply) : Prop :=
  match st.read with
  | .ok content => reply.status = 0 ∧ reply.output = content
  | .error cause => reply.status = 1 ∧ cause.words.toList <:+: reply.complaint.toList

theorem content_of_printed {st : FileState} {reply : Remote.Reply} (h : st.Printed reply)
    (path : String) : (reply.content path).map (fun _ => ()) =
      if st.isReadable then .ok () else .error (.notFound path) := by
  cases st with
  | file content =>
    obtain ⟨hstatus, -⟩ := h
    simp [Remote.Reply.content, hstatus, isReadable, Except.map]
  | absent | directory | refused =>
    obtain ⟨hstatus, -⟩ := h
    simp [Remote.Reply.content, hstatus, isReadable, Except.map]

end FileState

/-! ### The two ways to look -/

/-- The target opens files itself, and finds this at the path. -/
def Target.Opens (t : Target σ) (s : σ) (path : String) (st : FileState) : Prop :=
  ((t.openRead path s).1.map fun _ => ()) = st.opened.mapError (Fault.ofIo · path)

/-- Over the session the file that is in this state can be had printed. -/
def Remote.Session.Prints (session : Remote.Session σ) (s : σ) (path : String) (st : FileState) :
    Prop :=
  ∃ reply s', session.run (Remote.Command.read path).line s = (.ok reply, s') ∧ st.Printed reply

/-- What there is at a path of the machine at hand. -/
def Disk.stateAt (d : Disk) (path : String) : FileState :=
  match d.openRead (d.expand path) with
  | .error cause => if h : cause = .noEntry then .absent else .refused cause h
  | .ok loc =>
    match d.contentAt loc with
    | .ok content => .file content
    | .error _ => .directory

theorem Disk.Finds.stateAt {d : Disk} {path : String} {content : Bytes}
    (h : d.Finds path content) : d.stateAt path = .file content := by
  obtain ⟨loc, hopen, hfile⟩ := h
  rw [Disk.stateAt, hopen]
  simp only [contentAt, hfile]

theorem localTarget_opens (name path : String) (d : Disk) :
    (localTarget name).Opens d path (d.stateAt path) := by
  unfold Target.Opens Disk.stateAt
  simp only [localTarget]
  rw [Op.bind_pure, Op.look]
  cases d.openRead (d.expand path) with
  | error cause =>
    dsimp only
    split_ifs with habsent
    · rw [habsent]
      rfl
    · rfl
  | ok loc =>
    dsimp only
    cases d.contentAt loc with
    | ok content => rfl
    | error cause => rfl

theorem exists_opened {t : Target σ} {s : σ} {path : String} {st : FileState}
    (h : t.Opens s path st) : (t.exists path s).1 = st.found := by
  rcases hopen : t.openRead path s with ⟨told, s'⟩
  rw [Target.Opens, hopen] at h
  rw [Target.exists_eq hopen, ← presence_map told fun _ => (), h]
  cases st with
  | absent | file | directory => rfl
  | refused cause there =>
    simp [FileState.opened, FileState.found, Except.mapError, Fault.ofIo, there, presence,
      Fault.isNotFound]

theorem openRead_printed {session : Remote.Session τ} {s : τ} {path : String} {st : FileState}
    (h : session.Prints s path st) (name : String) :
    (((session.target name).openRead path s).1.map fun _ => ()) =
      if st.isReadable then .ok () else .error (.notFound path) := by
  obtain ⟨reply, s', hrun, hprinted⟩ := h
  rw [← FileState.content_of_printed hprinted path]
  simp only [Remote.Session.target, Remote.Session.ask]
  rw [Op.bind_pure, Op.bind_apply, hrun]
  dsimp only
  rw [Op.look]
  cases reply.content path <;> rfl

theorem exists_printed {session : Remote.Session τ} {s : τ} {path : String} {st : FileState}
    (h : session.Prints s path st) (name : String) :
    ((session.target name).exists path s).1 = .ok st.isReadable := by
  have hopened := openRead_printed h name
  rcases hopen : (session.target name).openRead path s with ⟨told, s'⟩
  rw [hopen] at hopened
  rw [Target.exists_eq hopen, ← presence_map told fun _ => (), hopened]
  cases st <;> rfl

/-! ### What they make of it -/

/-- The two kinds of condition that ask for nothing but whether a file is there. -/
def Condition.AsksPresence (c : Condition) : Prop := c.kind = .fileExists ∨ c.kind = .fileAbsent

theorem Condition.check_of_exists {disk : σ → Disk} {disk' : τ → Disk} {t : Target σ}
    {t' : Target τ} {s : σ} {s' : τ} {c : Condition} (hc : c.AsksPresence)
    (h : (t.exists c.filePath s).1 = (t'.exists c.filePath s').1) :
    (c.check disk t s).1 = (c.check disk' t' s').1 := by
  rcases hc with hkind | hkind
  · simp only [check, hkind]
    exact h
  · simp only [check, hkind]
    rw [Op.bind_pure, Op.bind_pure, h]

theorem FileState.found_eq_iff {st : FileState} :
    st.found = .ok st.isReadable ↔ st = .absent ∨ st.isReadable = true := by
  cases st <;> simp [found, isReadable]

theorem FileState.notFound_opened_iff {st : FileState} {path : String} :
    st.opened.mapError (Fault.ofIo · path) = .error (.notFound path) ↔ st = .absent := by
  cases st with
  | absent => simp [opened, Except.mapError, Fault.ofIo]
  | file | directory => simp [opened, Except.mapError]
  | refused cause there => simp [opened, Except.mapError, Fault.ofIo, there]

theorem error_eq_map_iff {α : Type} {r : Except Fault α} {f : Fault} :
    r = .error f ↔ (r.map fun _ => ()) = .error f := by
  cases r <;> simp [Except.map]

/-- On a file at hand and over a session, whether it is there and whether it is missing come out the
same if nothing is there or if it can be read, and not otherwise: what is there and cannot be read
is taken over the session to be missing. -/
theorem presence_agrees_iff {here : Target σ} {session : Remote.Session τ} {s : σ} {s' : τ}
    {path : String} {st : FileState} (hhere : here.Opens s path st)
    (hthere : session.Prints s' path st) (name : String) :
    ((∀ (disk : σ → Disk) (disk' : τ → Disk) (c : Condition), c.filePath = path → c.AsksPresence →
        (c.check disk here s).1 = (c.check disk' (session.target name) s').1) ↔
      st = .absent ∨ st.isReadable = true) ∧
    ((here.exists path s).1 = st.found ∧
      ((session.target name).exists path s').1 = .ok st.isReadable) ∧
    ((here.openRead path s).1 = .error (.notFound path) ↔ st = .absent) ∧
    (((session.target name).openRead path s').1 = .error (.notFound path) ↔
      st.isReadable = false) := by
  have hfound := exists_opened hhere
  have hread := exists_printed hthere name
  refine ⟨?_, ⟨hfound, hread⟩, ?_, ?_⟩
  · rw [← FileState.found_eq_iff, ← hfound, ← hread]
    constructor
    · intro hsame
      exact hsame (fun _ => ⟨[], [], ""⟩) (fun _ => ⟨[], [], ""⟩)
        { kind := .fileExists, filePath := path } rfl (Or.inl rfl)
    · intro hsame disk disk' c hpath hc
      apply Condition.check_of_exists hc
      rw [hpath, hsame]
  · rw [error_eq_map_iff, hhere]
    exact FileState.notFound_opened_iff
  · rw [error_eq_map_iff, openRead_printed hthere name]
    cases st.isReadable <;> simp

/-- A session over which one command is known. -/
def Remote.Session.of (line : String) (reply : Remote.Reply) : Remote.Session Unit where
  run l := Op.look fun _ => .ok (if l = line then reply else { status := 127 })
  start _ := Op.fail (.io .noEntry)
  disconnect := pure ()

def printing : Remote.Session Unit :=
  .of "cat -- '-n \u00e9'" { status := 0, output := greeting }

theorem printing_agrees :
    (localTarget "local").Opens Disk.shelf "-n \u00e9" (.file greeting) ∧
      printing.Prints () "-n \u00e9" (.file greeting) ∧
      ∀ c : Condition, c.filePath = "-n \u00e9" → c.AsksPresence →
        (c.check id (localTarget "local") Disk.shelf).1 =
          (c.check (fun _ => Disk.shelf) (printing.target "far") ()).1 := by
  have hfinds : Disk.shelf.Finds "-n \u00e9" greeting :=
    ⟨["-n \u00e9"], by decide +kernel, rfl⟩
  have hhere := localTarget_opens "local" "-n \u00e9" Disk.shelf
  rw [hfinds.stateAt] at hhere
  have hthere : printing.Prints () "-n \u00e9" (.file greeting) :=
    ⟨{ status := 0, output := greeting }, (), by decide +kernel, rfl, rfl⟩
  exact ⟨hhere, hthere, (presence_agrees_iff hhere hthere "far").1.mpr (Or.inr rfl) id _⟩

def printingRoot : Remote.Session Unit :=
  .of "cat -- /" { status := 1, complaint := "cat: /: Is a directory\n" }

def printingShadow : Remote.Session Unit :=
  .of "cat -- /etc/shadow" { status := 1, complaint := "cat: /etc/shadow: Permission denied\n" }

/-- A directory is there at hand and missing over the session. So is a file there that the user may
not read. -/
theorem presence_differs :
    ((localTarget "local").Opens Disk.shelf "/" .directory ∧
      printingRoot.Prints () "/" .directory ∧
      ((localTarget "local").exists "/" Disk.shelf).1 = .ok true ∧
      ((printingRoot.target "far").exists "/" ()).1 = .ok false) ∧
    (printingShadow.Prints () "/etc/shadow" (.refused .denied (by decide)) ∧
      (((printingShadow.target "far").openRead "/etc/shadow" ()).1.map fun _ => ()) =
        .error (.notFound "/etc/shadow")) := by
  refine ⟨⟨?_, ⟨_, (), rfl, rfl, ?_⟩, ?_, ?_⟩, ⟨_, (), rfl, rfl, ?_⟩, ?_⟩
  · unfold Target.Opens
    decide +kernel
  · decide +kernel
  · decide +kernel
  · decide +kernel
  · decide +kernel
  · decide +kernel

end Upkeep
