import Mathlib.Data.List.Basic
import Upkeep.Console.Display
import Upkeep.Proofs.Messages
import Upkeep.Proofs.Verdicts

/-!
What the console shows of a run. A run is rendered line by line, by recursion on its record, and
without a state. The display, which only ever sees the next event and remembers which line is open,
writes the same text.
-/

set_option autoImplicit false

namespace Upkeep

variable {σ : Type}

namespace Console

/-! ### Lines -/

inductive Line where
  /-- A machine, with the fault for which it could not be connected. -/
  | machine (name : String) (fault : Option Fault)
  /-- An assertion that others are begun within. -/
  | running (group name : String)
  | ended (group name : String) (e : Evaluation)

/-- A name as one token: the words of it, with underscores between them. -/
def token (name : String) : String :=
  String.ofList (['_'].intercalate (name.toList.splitOn ' '))

/-- Two blanks for every segment of the name of a group. -/
def indentation (group : String) : String :=
  String.join ((group.toList.splitOn '/').map fun _ => "  ")

def labelText (group name : String) : String :=
  s!"{indentation group}{token group}.{token name}: "

/-- Words are coloured by escape sequences: 9 is red, 10 green, 11 yellow, and 14 cyan. -/
def resultWord : Outcome → String
  | .noop => "\x1b[38;5;10mOK\x1b[39m"
  | .applied => "\x1b[38;5;11mAPPLIED\x1b[39m"
  | .failed => "\x1b[38;5;9mFAILED\x1b[39m"
  | .error => "\x1b[38;5;9mERR\x1b[39m"
  | .applyError => "\x1b[38;5;9mAPPLY_ERR\x1b[39m"

def faultText : Evaluation → String
  | ⟨.error, some f⟩ | ⟨.applyError, some f⟩ => s!" ({f.said})"
  | _ => ""

def resultText (e : Evaluation) : String := resultWord e.outcome ++ faultText e ++ "\n"

def runningText : String := "\x1b[38;5;11mRUNNING\x1b[39m\n"

def connectingText (name : String) : String :=
  "Connecting to " ++ s!"\x1b[38;5;14m{token name}\x1b[39m" ++ ": "

def connectionText : Option Fault → String
  | none => "\x1b[38;5;10mCONNECTED\x1b[39m\n"
  | some f => s!"\x1b[38;5;11mERROR\x1b[39m ({f.said})\n"

namespace Line

def text : Line → String
  | .machine name fault => connectingText name ++ connectionText fault
  | .running group name => labelText group name ++ runningText
  | .ended group name e => labelText group name ++ resultText e

end Line

def text (lines : List Line) : String := String.join (lines.map Line.text)

@[simp] theorem text_nil : text [] = "" := rfl

@[simp] theorem text_cons (line : Line) (lines : List Line) :
    text (line :: lines) = line.text ++ text lines := by
  simp [text, String.join_cons]

@[simp] theorem text_append (lines lines' : List Line) :
    text (lines ++ lines') = text lines ++ text lines' := by
  simp [text, String.join_append]

end Console

open Console (Line)

/-- An assertion has one line, unless others are begun within it. Then it has one before them and
one after them. -/
def Record.lines : Record → List Line
  | .nothing => []
  | .assertion group name _ _ remedy e rest =>
    (if remedy.events.isEmpty then [.ended group name e]
      else .running group name :: remedy.lines ++ [.ended group name e]) ++ rest.lines
  | .action _ _ within _ rest => within.lines ++ rest.lines

def Stay.lines : Stay σ → List Line
  | .refused name _ f => [.machine name (some f)]
  | .served name _ _ record _ _ => .machine name none :: record.lines

theorem Record.lines_of_events {record : Record} (h : record.events = []) : record.lines = [] := by
  induction record with
  | nothing => rfl
  | assertion => simp [events] at h
  | action parent x within result rest ihWithin ihRest =>
    obtain ⟨hwithin, hrest⟩ := List.append_eq_nil_iff.mp h
    simp [lines, ihWithin hwithin, ihRest hrest]

/-! ### The ends that lines tell of -/

namespace Console

/-! ### The display -/

/-- The line that is open after events. -/
def lineAfter (line : OpenLine) (es : List Event) : OpenLine :=
  es.foldl (fun line e => (display true line e).2) line

def shown (line : OpenLine) (es : List Event) : String := String.join (displayEach line es)

/-- What it takes to close a line. -/
def closingText (line : OpenLine) : String := if line.isSome then runningText else ""

/-- From this open line, events are shown as this text, and leave that line open. -/
def Shows (line : OpenLine) (es : List Event) (s : String) (line' : OpenLine) : Prop :=
  shown line es = s ∧ lineAfter line es = line'

namespace Shows

theorem nil (line : OpenLine) : Shows line [] "" line := ⟨rfl, rfl⟩

theorem cons {line line₁ line' : OpenLine} {e : Event} {es : List Event} {s s' : String}
    (h : display true line e = (s, line₁)) (h' : Shows line₁ es s' line') :
    Shows line (e :: es) (s ++ s') line' := by
  obtain ⟨hshown, hafter⟩ := h'
  constructor
  · rw [shown, displayEach, h, String.join_cons]
    exact congrArg (s ++ ·) hshown
  · rw [lineAfter, List.foldl_cons, h]
    exact hafter

theorem append {line line₁ line' : OpenLine} {es es' : List Event} {s s' : String}
    (h : Shows line es s line₁) (h' : Shows line₁ es' s' line') :
    Shows line (es ++ es') (s ++ s') line' := by
  induction es generalizing line s with
  | nil =>
    obtain ⟨rfl, rfl⟩ := h
    simpa [shown, displayEach, lineAfter, String.join_nil] using h'
  | cons e es ih =>
    rcases he : display true line e with ⟨s₀, line₀⟩
    have htail : Shows line₀ es (shown line₀ es) line₁ := by
      refine ⟨rfl, ?_⟩
      rw [← h.2, lineAfter, lineAfter, List.foldl_cons, he]
    have hs : s = s₀ ++ shown line₀ es := by
      rw [← h.1, shown, displayEach, he, String.join_cons]
      rfl
    rw [hs, String.append_assoc]
    exact cons he (ih htail)

end Shows

/-! ### Labels and words -/

theorem plainName_eq_token (name : String) : plainName name = token name := by
  have hwords (cs : List Char) :
      (cs.map fun c => if c = ' ' then '_' else c) = ['_'].intercalate (cs.splitOn ' ') := by
    induction cs with
    | nil => rfl
    | cons c cs ih =>
      have hne := List.splitOn_ne_nil ' ' cs
      rw [List.map_cons, ih, List.splitOn_cons_eq_if_modifyHead]
      by_cases hc : c = ' '
      · simp [hc, List.intercalate_cons_of_ne_nil hne]
      · obtain ⟨word, words, hcs⟩ := List.exists_cons_of_ne_nil hne
        simp [hc, hcs, List.intercalate_cons_cons_left]
  exact congrArg String.ofList (hwords name.toList)

/-- A slash more is a segment more. -/
theorem length_segments (group : List Char) :
    (group.splitOn '/').length = group.count '/' + 1 := by
  induction group with
  | nil => rfl
  | cons c cs ih =>
    rw [List.splitOn_cons_eq_if_modifyHead, List.count_cons]
    split <;> simp [ih]

theorem join_blanks {α : Type} (segments : List α) :
    String.join (segments.map fun _ => "  ") =
      String.ofList (List.replicate (segments.length * 2) ' ') := by
  induction segments with
  | nil => rfl
  | cons _ segments ih =>
    rw [List.map_cons, String.join_cons, ih, List.length_cons, Nat.succ_mul, Nat.add_comm,
      List.replicate_add, String.ofList_append]
    rfl

theorem label_eq (group name : String) : label group name = labelText group name := by
  have hblanks : String.ofList (List.replicate (2 + nesting group * 2) ' ') =
      indentation group := by
    rw [indentation, join_blanks, length_segments, nesting, Nat.succ_mul, Nat.add_comm]
  rw [label, hblanks, plainName_eq_token, plainName_eq_token]
  rfl

theorem painted_result (outcome : Outcome) :
    (outcomeColour outcome).paint outcome.label = resultWord outcome := by
  cases outcome <;> decide

theorem painted_running : Colour.yellow.paint "RUNNING" ++ "\n" = runningText := by decide

theorem painted_connecting (name : String) :
    "Connecting to " ++ Colour.cyan.paint (plainName name) ++ ": " = connectingText name := by
  have hcyan : "\x1b[38;5;" ++ toString Colour.cyan.index ++ "m" = "\x1b[38;5;14m" := by decide
  rw [Colour.paint, hcyan, plainName_eq_token]
  rfl

theorem painted_connected : Colour.green.paint "CONNECTED" ++ "\n" = connectionText none := by
  decide

theorem painted_refused (f : Fault) :
    Colour.yellow.paint "ERROR" ++ " (" ++ f.message ++ ")\n" = connectionText (some f) := by
  have hword : Colour.yellow.paint "ERROR" ++ " (" = "\x1b[38;5;11mERROR\x1b[39m (" := by decide
  rw [hword, f.message_eq_said]
  rfl

/-! ### Events -/

theorem perform_closing (line : OpenLine) (strokes : List Stroke) :
    perform line (closing line ++ strokes) =
      (closingText line ++ (perform none strokes).1, (perform none strokes).2) := by
  cases line with
  | none => rfl
  | some line => simp [closing, closingText, perform, painted_running]

theorem display_started (line : OpenLine) (group name : String) :
    display true line (.started group name) =
      (closingText line ++ labelText group name, some (group, name)) := by
  simp [display, strokes, Event.started, perform_closing, perform, label_eq]

theorem perform_shownFault (line : OpenLine) (e : Evaluation) (strokes : List Stroke) :
    perform line (shownFault e.outcome e.fault ++ strokes) =
      (faultText e ++ (perform line strokes).1, (perform line strokes).2) := by
  obtain ⟨outcome, fault⟩ := e
  cases outcome <;> cases fault <;> simp [shownFault, perform, Fault.message_eq_said] <;> rfl

/-- The line of an assertion is completed where it stands if nothing has come in between. -/
theorem display_ended_open (group name : String) (e : Evaluation) :
    display true (some (group, name)) (.ended group name e) = (resultText e, none) := by
  simp [display, strokes, Event.ended, perform, perform_shownFault, resultText, painted_result,
    String.append_assoc]

theorem display_ended_closed (group name : String) (e : Evaluation) :
    display true none (.ended group name e) = (labelText group name ++ resultText e, none) := by
  simp [display, strokes, Event.ended, perform, closing, perform_shownFault, resultText,
    painted_result, label_eq, String.append_assoc]

theorem display_connecting (name : String) :
    display true none (.machine name false none) = (connectingText name, none) := by
  simp [display, strokes, closing, perform, painted_connecting]

theorem display_connected (name : String) :
    display true none (.machine name true none) = (connectionText none, none) := by
  simp [display, strokes, closing, perform, painted_connected]

theorem display_refused (name : String) (f : Fault) :
    display true none (.machine name false (some f)) = (connectionText (some f), none) := by
  simp [display, strokes, closing, perform, painted_refused]

/-! ### Runs -/

/-- An open line stays open as long as there is nothing to show. -/
theorem shows_record (record : Record) (line : OpenLine) :
    Shows line record.events
      (if record.events.isEmpty then "" else closingText line ++ text record.lines)
      (if record.events.isEmpty then line else none) := by
  induction record generalizing line with
  | nothing => exact .nil line
  | assertion group name a answer remedy e rest ihRemedy ihRest =>
    have hrest : Shows none rest.events (text rest.lines) none := by
      by_cases hquiet : rest.events = []
      · simpa [hquiet, Record.lines_of_events hquiet] using ihRest none
      · simpa [hquiet, closingText] using ihRest none
    have hbegun := display_started line group name
    by_cases hquiet : remedy.events = []
    · have hended := Shows.cons (display_ended_open group name e) hrest
      have hall := Shows.cons hbegun hended
      simpa [Record.events, Record.lines, hquiet, Line.text, String.append_assoc] using hall
    · -- What comes first within the remedy closes the line, so the end needs one of its own.
      have hremedy : Shows (some (group, name)) remedy.events
          (runningText ++ text remedy.lines) none := by
        simpa [hquiet, closingText] using ihRemedy (some (group, name))
      have hended := Shows.cons (display_ended_closed group name e) hrest
      have hall := Shows.cons hbegun (hremedy.append hended)
      simpa [Record.events, Record.lines, hquiet, Line.text, String.append_assoc] using hall
  | action parent x within result rest ihWithin ihRest =>
    have hall := (ihWithin line).append (ihRest _)
    by_cases hwithin : within.events = []
    · by_cases hrest : rest.events = []
      · simpa [Record.events, hwithin, hrest] using hall
      · simpa [Record.events, Record.lines, hwithin, hrest, Record.lines_of_events hwithin]
          using hall
    · by_cases hrest : rest.events = []
      · simpa [Record.events, Record.lines, hwithin, hrest, Record.lines_of_events hrest] using hall
      · simpa [Record.events, Record.lines, hwithin, hrest, closingText, String.append_assoc]
          using hall

theorem shows_stay (stay : Stay σ) : Shows none stay.events (text stay.lines) none := by
  cases stay with
  | refused name m f =>
    have hall := Shows.cons (display_connecting name)
      (Shows.cons (display_refused name f) (.nil none))
    simpa [Stay.lines, Stay.events, Line.text] using hall
  | served name m t record evaluated released =>
    have hrecord : Shows none record.events (text record.lines) none := by
      by_cases hquiet : record.events = []
      · simpa [hquiet, Record.lines_of_events hquiet] using shows_record record none
      · simpa [hquiet, closingText] using shows_record record none
    have hall := Shows.cons (display_connecting name) (Shows.cons (display_connected name) hrecord)
    simpa [Stay.lines, Stay.events, Line.text, String.append_assoc] using hall

theorem shows_stays (stays : List (Stay σ)) :
    Shows none (stays.flatMap Stay.events) (text (stays.flatMap Stay.lines)) none := by
  induction stays with
  | nil => exact .nil none
  | cons stay stays ih =>
    rw [List.flatMap_cons, List.flatMap_cons, text_append]
    exact (shows_stay stay).append ih

end Console

end Upkeep
