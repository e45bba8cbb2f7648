import Upkeep.Proofs.Loading
import Upkeep.Proofs.Rendering

/-!
What the program does for a command that applies assertions. Nothing is done before all files have
been loaded; then the run decides how the program ends.
-/

set_option autoImplicit false

namespace Upkeep.CommandLine

/-! ### Arguments -/

/-- An argument that can stand for a file. -/
def Operand (argument : String) : Prop := argument ≠ "" ∧ Shape.of argument = .plain

/-- The plain way to write an invocation: the file of machines, the command, and its files. -/
structure Invocation.Spelled (i : Invocation) (arguments : List String) : Prop where
  arguments : arguments =
    i.targets.toList.flatMap (fun path => ["--targets", path]) ++ i.command.toString :: i.files
  files : i.files ≠ []
  operands : ∀ path ∈ i.targets.toList ++ i.files, Operand path

theorem Command.ofString?_toString (command : Command) :
    ofString? command.toString = some command := by
  cases command <;> rfl

theorem readFiles_operands (command : Command) {paths files : List String}
    (hfiles : ∀ path ∈ files, Operand path) :
    readFiles command { pending := .files paths } files =
      Reading.settle { pending := .files (paths ++ files) } := by
  induction files generalizing paths with
  | nil => rw [readFiles, List.append_nil]
  | cons path files ih =>
    have hshape := (hfiles path (.head files)).2
    have hread : readArgument (.command command) Reading.addFile { pending := .files paths } path =
        .ok { pending := .files (paths ++ [path]) } := by
      simp [readArgument, hshape, Reading.awaitsValue, Reading.addFile]
    have hrest : readFiles command { pending := .files (paths ++ [path]) } files =
        Reading.settle { pending := .files (paths ++ [path] ++ files) } :=
      ih fun other h => hfiles other (.tail path h)
    rw [readFiles, hread]
    rwa [List.append_assoc] at hrest

theorem readFiles_ok (command : Command) {files : List String} (hne : files ≠ [])
    (hfiles : ∀ path ∈ files, Operand path) :
    readFiles command {} files = .ok { files := files } := by
  obtain ⟨path, rest, rfl⟩ := List.exists_cons_of_ne_nil hne
  have hshape := (hfiles path (.head rest)).2
  have hread : readArgument (.command command) Reading.addFile {} path =
      .ok { pending := .files [path] } := by
    simp [readArgument, hshape, Reading.awaitsValue, Reading.addFile, Reading.settle, Except.map]
  have hempty : "" ∉ path :: rest := fun h => (hfiles "" h).1 rfl
  rw [readFiles, hread]
  simp only [readFiles_operands command fun other h => hfiles other (.tail path h)]
  simp [Reading.settle, hempty]

theorem Command.toString_ne_help (command : Command) : command.toString ≠ helpWord := by
  cases command <;> decide

/-- From the command on, with whatever has been read of the file of machines before it. -/
theorem readFrom_command (command : Command) {before settled : Reading} {files : List String}
    (hwaits : before.awaitsValue = false) (honly : before.onlyFiles = false)
    (hsettled : before.settle = .ok settled) (hne : files ≠ [])
    (hfiles : ∀ path ∈ files, Operand path) :
    readFrom before (command.toString :: files) = .ok ⟨command, settled.targets, files⟩ := by
  have hafter := readFiles_ok command hne hfiles
  rw [readFrom]
  simp [hwaits, honly, command.toString_ne_help, command.ofString?_toString, hafter, combine, hne,
    hsettled]

theorem readFrom_targets {path : String} (hpath : Operand path) (rest : List String) :
    readFrom {} ("--targets" :: path :: rest) =
      readFrom { pending := .option (some path) } rest := by
  have hoption : readArgument .program refuseWord {} "--targets" =
      .ok { pending := .option none } := by decide +kernel
  have hvalue : readArgument .program refuseWord { pending := .option none } path =
      .ok { pending := .option (some path) } := by
    simp [readArgument, hpath.2, Reading.awaitsValue]
  have hword : Command.ofString? "--targets" = none := rfl
  have hhelp : "--targets" ≠ helpWord := by decide
  rw [readFrom]
  simp only [hoption, hword, hhelp]
  rw [readFrom]
  simp [hvalue, Reading.awaitsValue]

theorem parse_spelled {i : Invocation} {arguments : List String} (h : i.Spelled arguments) :
    parse arguments = .ok i := by
  obtain ⟨rfl, hne, hoperands⟩ := h
  obtain ⟨command, targets, files⟩ := i
  have hfiles : ∀ path ∈ files, Operand path := fun path hpath =>
    hoperands path (List.mem_append_right _ hpath)
  cases targets with
  | none =>
    have hsettled : Reading.settle {} = .ok {} := rfl
    exact readFrom_command command rfl rfl hsettled hne hfiles
  | some path =>
    have hpath : Operand path := hoperands path (List.mem_append_left _ (.head _))
    have hsettled : Reading.settle { pending := .option (some path) } =
        .ok { targets := some path } := by
      simp [Reading.settle, Reading.setTargets, hpath.1]
    rw [parse]
    exact (readFrom_targets hpath _).trans
      (readFrom_command command rfl rfl hsettled hne hfiles)

/-! ### What is printed -/

def Failure.said (wording : Wording) : Failure → String
  | .targets path e => s!"Could not load targets {path}: {e.said wording.targets}"
  | .assertions path e => s!"Could not load assertions {path}: {e.said wording.assertions}"
  | .fault f => f.saidFully

theorem Failure.message_eq_said (wording : Wording) (failure : Failure) :
    failure.message wording = failure.said wording := by
  cases failure with
  | targets path e =>
    exact congrArg (s!"Could not load targets {path}: " ++ ·) (e.message_eq_said _)
  | assertions path e =>
    exact congrArg (s!"Could not load assertions {path}: " ++ ·) (e.message_eq_said _)
  | fault f => exact f.fullMessage_eq_said

/-- What is printed after a verdict of FAIL. -/
def verdictLine : String := "\x1b[38;5;9mError\x1b[39m: assertions failed\n"

theorem failureLine_eq : failureLine = verdictLine := by decide

/-- A line on a machine or an assertion ends with a coloured word, or with a fault in brackets. -/
inductive LineEnd : String → Prop where
  | word (front : String) : LineEnd (front ++ "m\n")
  | fault (front : String) : LineEnd (front ++ ")\n")

theorem LineEnd.append {s : String} (h : LineEnd s) (front : String) : LineEnd (front ++ s) := by
  cases h with
  | word rest =>
    rw [← String.append_assoc]
    exact .word _
  | fault rest =>
    rw [← String.append_assoc]
    exact .fault _

theorem LineEnd.ne_verdict {s : String} (h : LineEnd s) (front : String) :
    s ≠ front ++ verdictLine := by
  have hverdict : verdictLine = "\x1b[38;5;9mError\x1b[39m: assertions faile" ++ "d\n" := by decide
  intro hs
  rw [hverdict, ← String.append_assoc] at hs
  have hchars := congrArg String.toList hs
  cases h with
  | word rest =>
    rw [String.toList_append, String.toList_append] at hchars
    exact absurd (List.append_inj' hchars rfl).2 (by decide)
  | fault rest =>
    rw [String.toList_append, String.toList_append] at hchars
    exact absurd (List.append_inj' hchars rfl).2 (by decide)

theorem lineEnd_result (e : Evaluation) : LineEnd (Console.resultText e) := by
  have hword (outcome : Outcome) : Console.resultWord outcome ++ "\n" =
      String.ofList (Console.resultWord outcome).toList.dropLast ++ "m\n" := by
    cases outcome <;> decide
  have hfault (f : Fault) (word : String) : LineEnd (word ++ s!" ({f.said})" ++ "\n") := by
    have hbracket : s!" ({f.said})" ++ "\n" = s!" ({f.said}" ++ ")\n" := String.append_assoc ..
    rw [String.append_assoc, hbracket]
    exact (LineEnd.fault _).append word
  unfold Console.resultText Console.faultText
  split
  · exact hfault _ _
  · exact hfault _ _
  · rw [String.append_empty, hword]
    exact .word _

theorem lineEnd_text (line : Console.Line) : LineEnd line.text := by
  cases line with
  | running group name =>
    have hword : Console.runningText = "\x1b[38;5;11mRUNNING\x1b[39" ++ "m\n" := by decide
    rw [Console.Line.text, hword, ← String.append_assoc]
    exact .word _
  | ended group name e => exact (lineEnd_result e).append _
  | machine name fault =>
    cases fault with
    | none =>
      have hword : Console.connectionText none = "\x1b[38;5;10mCONNECTED\x1b[39" ++ "m\n" := by
        decide
      rw [Console.Line.text, hword, ← String.append_assoc]
      exact .word _
    | some f => exact (LineEnd.fault s!"\x1b[38;5;11mERROR\x1b[39m ({f.said}").append _

theorem text_ne_verdict (lines : List Console.Line) (front : String) :
    Console.text lines ≠ front ++ verdictLine := by
  rcases List.eq_nil_or_concat lines with rfl | ⟨earlier, line, rfl⟩
  · intro h
    have hchars := congrArg String.toList h
    rw [String.toList_append] at hchars
    exact absurd (List.append_eq_nil_iff.mp hchars.symm).2 (by decide)
  · rw [List.concat_eq_append, Console.text_append]
    have hline : LineEnd (Console.text [line]) := by
      simpa using lineEnd_text line
    exact (hline.append _).ne_verdict front

/-! ### The end of a run -/

/-- How the program ends after a run that has come to this result, when these have been its stays.
The line on the verdict is not to be mistaken for a line on a machine or an assertion. -/
structure Finish.Tells (finish : Finish) (stays : List (Stay Disk))
    (r : Except Fault Unit) : Prop where
  success : finish.exit = 0 ↔ r = .ok ()
  failure : finish.exit = 1 ↔ ∃ f, r = .error f
  failed : r = .error .assertionsFailed →
    finish.output = Console.text (stays.flatMap Stay.lines) ++ verdictLine
  notFailed : r ≠ .error .assertionsFailed →
    finish.output = Console.text (stays.flatMap Stay.lines)
  verdict : (∃ front, finish.output = front ++ verdictLine) ↔ r = .error .assertionsFailed
  complaint : ∀ f, r = .error f → f ≠ .assertionsFailed →
    ∃ log, finish.complaint = log ++ s!"Error: {f.saidFully}\n"

theorem complaint_eq (log s : String) :
    log ++ "Error: " ++ s ++ "\n" = log ++ s!"Error: {s}\n" := by
  rw [String.append_assoc, String.append_assoc]
  exact congrArg (log ++ ·) (String.append_assoc ..).symm

section Endings

variable (wording : Wording) (call : Caller) (threshold : Option Level) (notes : List Note)

theorem fail_tells (stays : List (Stay Disk)) (d : Disk) (f : Fault) :
    (fail wording threshold (Console.text (stays.flatMap Stay.lines)) notes d (.fault f)).Tells
      stays (.error f) := by
  have hne := text_ne_verdict (stays.flatMap Stay.lines)
  by_cases hf : f = .assertionsFailed
  · constructor <;> simp [fail, hf, failureLine_eq]
  · constructor
    case complaint =>
      intro f' hf' hother
      obtain rfl := Except.error.inj hf'
      have hnot : Failure.fault f ≠ .fault .assertionsFailed := by simpa using hf
      rw [fail, if_neg hnot, Failure.message_eq_said, complaint_eq]
      exact ⟨_, rfl⟩
    all_goals simp [fail, hf, hne]

theorem apply_disk (plan : Plan) (d : Disk) :
    (apply wording call threshold notes plan d).disk =
      (plan.run id (backend wording.keys call) d).2.world := by
  unfold apply
  rcases plan.run id (backend wording.keys call) d with ⟨f | _, p⟩
  · dsimp only [fail]
    split <;> rfl
  · rfl

theorem apply_tells {plan : Plan} {d : Disk} {stays : List (Stay Disk)}
    (hevents : (plan.run id (backend wording.keys call) d).2.events = stays.flatMap Stay.events) :
    (apply wording call threshold notes plan d).Tells stays
      (plan.run id (backend wording.keys call) d).1 := by
  rcases hrun : plan.run id (backend wording.keys call) d with ⟨r, p⟩
  rw [hrun] at hevents
  have houtput : Console.render p.events = Console.text (stays.flatMap Stay.lines) :=
    (congrArg Console.render hevents).trans (Console.shows_stays stays).1
  unfold apply
  rw [hrun]
  cases r with
  | error f =>
    dsimp only
    rw [houtput]
    exact fail_tells wording threshold _ stays p.world f
  | ok _ =>
    have hne := text_ne_verdict (stays.flatMap Stay.lines)
    constructor <;> simp [houtput, hne]

end Endings

/-! ### Invocations -/

namespace Invocation

variable {i : Invocation} {d : Disk}

/-- For a file that cannot be loaded the program complains about the first of them, and does nothing
else. -/
theorem execute_bad (wording : Wording) (call : Caller) (threshold : Option Level)
    {failure : Failure} (h : FirstBad d i.sources failure) :
    i.execute wording call threshold d =
      { exit := 1
        output := ""
        complaint :=
          logText threshold (i.loadNotes d ++ [⟨.error, failure.said wording⟩]) ++
            s!"Error: {failure.said wording}\n"
        disk := d } := by
  have hne : failure ≠ .fault .assertionsFailed := by
    obtain ⟨source, -, hbad⟩ := h.exists_bad
    cases hbad <;> simp
  rw [execute, load_error_iff.mpr h]
  dsimp only [fail]
  rw [if_neg hne, failure.message_eq_said, complaint_eq]

theorem execute_good (wording : Wording) (call : Caller) (threshold : Option Level)
    {plan : Plan} (hcommand : i.command ≠ .print) (h : i.load d = .ok plan) :
    i.execute wording call threshold d =
      apply wording call threshold (i.loadNotes d) plan d := by
  rw [execute, h]
  cases hword : i.command with
  | print => exact absurd hword hcommand
  | run | assert => rfl

end Invocation

/-- A command that applies assertions first loads all its files. If one of them cannot be loaded,
the first such file is what the program complains about, and it does nothing else. Otherwise the
groups are applied on each machine in the order of the files, and the run decides how the program
ends. -/
theorem start_loads_first (wording : Wording) (call : Caller) (threshold : Option Level)
    (d : Disk) :
    (∀ (i : Invocation) (arguments : List String), i.Spelled arguments → parse arguments = .ok i) ∧
    ∀ (i : Invocation) (arguments : List String), parse arguments = .ok i → i.command ≠ .print →
      ((∃ source ∈ i.sources, ¬ source.Good d) → ∃ failure, FirstBad d i.sources failure) ∧
      (∀ failure, FirstBad d i.sources failure →
        start wording call threshold arguments d =
          { exit := 1
            output := ""
            complaint :=
              logText threshold (i.loadNotes d ++ [⟨.error, failure.said wording⟩]) ++
                s!"Error: {failure.said wording}\n"
            disk := d }) ∧
      ((∀ source ∈ i.sources, source.Good d) → ∃ plan stays, i.Holds d plan ∧
        Tour id (backend wording.keys call) plan.groups plan.fleet.machines d stays
          (plan.run id (backend wording.keys call) d).1
          (start wording call threshold arguments d).disk ∧
        (start wording call threshold arguments d).Tells stays
          (plan.run id (backend wording.keys call) d).1 ∧
        (¬ call.Raises .assertionsFailed →
          ((plan.run id (backend wording.keys call) d).1 = .error .assertionsFailed ↔
            (recordOf stays).dispatched.getLast? = some .fail))) := by
  refine ⟨fun i arguments => parse_spelled, fun i arguments hparse hcommand => ?_⟩
  have hstart : start wording call threshold arguments d =
      i.execute wording call threshold d := by
    rw [start, hparse]
  rw [hstart]
  refine ⟨FirstBad.exists_of_not_good, ?_, ?_⟩
  · intro failure hbad
    exact Invocation.execute_bad wording call threshold hbad
  · intro hgood
    obtain ⟨plan, hload, hholds⟩ := Invocation.exists_load hgood
    obtain ⟨stays, htour, hevents⟩ := plan.run_tours id (backend wording.keys call) d
    rw [Invocation.execute_good wording call threshold hcommand hload]
    refine ⟨plan, stays, hholds, ?_, ?_, fun hcall => ?_⟩
    · rw [apply_disk]
      exact htour
    · exact apply_tells wording call threshold _ hevents
    · exact (htour.sound (backend_not_raises hcall)).sentinel

theorem noCaller_not_raises : ¬ noCaller.Raises .assertionsFailed := by
  intro h
  cases h with
  | connect h => cases h
  | target h => cases h

/-- A file of assertions, and one that breaks off. -/
def desk : Disk where
  entries :=
    [(["a.json"], .file (Bytes.ofString
      "\x7b\"name\":\"a\",\"assert\":\x7b\"m\":\x7b\"kind\":\"exists\",\"file_path\":\"/m\"\x7d\x7d\x7d")),
    (["b.json"], .file (Bytes.ofString "\x7b"))]
  here := []
  home := ""

def deskOne : Invocation := ⟨.run, none, ["/a.json"]⟩

def deskBoth : Invocation := ⟨.assert, none, ["/a.json", "/b.json"]⟩

def deskFailure : Failure := .assertions "/b.json" (.undecodable (some "/b.json") .json "\x7b")

theorem deskOne_good : ∀ source ∈ deskOne.sources, source.Good desk := by
  have hloads : (deskOne.load desk).toOption.isSome = true := by decide +kernel
  cases hload : deskOne.load desk with
  | error failure =>
    rw [hload] at hloads
    cases hloads
  | ok plan => exact Invocation.good_of_load hload

theorem deskBoth_firstBad : FirstBad desk deskBoth.sources deskFailure := by
  have hread : desk.readText "/b.json" = .ok "\x7b" := by decide +kernel
  have hdecode : (Group.specKind.decode .json "\x7b").isNone = true := by decide +kernel
  have hrefuses : Group.specKind.Refuses desk "/b.json"
      (.undecodable (some "/b.json") .json "\x7b") :=
    .undecoded hread (Option.isNone_iff_eq_none.mp hdecode)
  exact .later (deskOne_good _ (.head _)) (.here _ (.assertions hrefuses))

/-- What the decoder says of a file that breaks off. -/
def deskWording : Wording where
  targets _ _ := ""
  assertions _ _ := "EOF while parsing an object at line 1 column 1"
  keys _ _ := ""

theorem desk_loads_first :
    (∃ log, start deskWording noCaller none ["assert", "/a.json", "/b.json"] desk =
      { exit := 1
        output := ""
        complaint := log ++ "Error: Could not load assertions /b.json: " ++
          "Invalid spec file /b.json: Failed to parse JSON: " ++
          "EOF while parsing an object at line 1 column 1\n"
        disk := desk }) ∧
    ∃ (plan : Plan) (stays : List (Stay Disk)), deskOne.Holds desk plan ∧
      (start deskWording noCaller none ["run", "/a.json"] desk).Tells stays
        (plan.run id (backend deskWording.keys noCaller) desk).1 ∧
      ((plan.run id (backend deskWording.keys noCaller) desk).1 = .error .assertionsFailed ↔
        (recordOf stays).dispatched.getLast? = some .fail) := by
  obtain ⟨hspelled, hstart⟩ := start_loads_first deskWording noCaller none desk
  have hboth := hspelled deskBoth ["assert", "/a.json", "/b.json"]
    ⟨rfl, by decide, by simp [deskBoth, Operand, Shape.of]⟩
  have hone := hspelled deskOne ["run", "/a.json"]
    ⟨rfl, by decide, by simp [deskOne, Operand, Shape.of]⟩
  obtain ⟨-, hbad, -⟩ := hstart _ _ hboth (by decide)
  obtain ⟨-, -, hgood⟩ := hstart _ _ hone (by decide)
  obtain ⟨plan, stays, hholds, -, htells, hsentinel⟩ := hgood deskOne_good
  have hcomplaint : s!"Error: {deskFailure.said deskWording}\n" =
      "Error: Could not load assertions /b.json: " ++
        ("Invalid spec file /b.json: Failed to parse JSON: " ++
          "EOF while parsing an object at line 1 column 1\n") := by
    decide +kernel
  have hrefused := hbad deskFailure deskBoth_firstBad
  rw [hcomplaint, ← String.append_assoc, ← String.append_assoc] at hrefused
  exact ⟨⟨_, hrefused⟩, plan, stays, hholds, htells, hsentinel noCaller_not_raises⟩

end Upkeep.CommandLine
