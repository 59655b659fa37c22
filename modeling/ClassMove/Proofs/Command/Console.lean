import ClassMove.Command.Run
import ClassMove.Proofs.Move.Listener

/-!
# What a console shows

As long as nobody who reads a stream goes away, a reporter prints what it is told message
by message, so what it has printed in the end can be read off the transcript of the work.
Whether or not somebody goes away, the events that a reporter keeps are those of the
transcript.
-/

namespace ClassMove

/-! ## Events that are kept -/

namespace Reporter

end Reporter

/-! ## Streams that stay open -/

/-- The readers of both streams stay. -/
def Console.IsOpen (console : Console) : Prop :=
  console.out.room? = none ∧ console.err.room? = none

/-- The line of an event on standard output. -/
def Message.outLines (verbose echo : Bool) : Message → List String
  | .event told => if echo && !told.isWarning then (told.render? verbose).toList else []
  | .status _ => []

/-- The line of a message on standard error. -/
def Message.errLines (verbose echo isTerminal : Bool) : Message → List String
  | .event told => if echo && told.isWarning then (told.render? verbose).toList else []
  | .status reached => if isTerminal then [reached.line] else []

/-- The event in a message. -/
def Message.event? : Message → Option Event
  | .event told => some told
  | .status _ => none

namespace Reporter

/-- Everything can be written. -/
structure IsOpen (reporter : Reporter) : Prop where
  working : reporter.halted? = none
  console : reporter.console.IsOpen

/-- The reporter with more lines on both streams. -/
def showing (reporter : Reporter) (out err : List String) : Reporter :=
  { reporter with
    console :=
      { reporter.console with
        out := { reporter.console.out with lines := reporter.console.out.lines ++ out }
        err := { reporter.console.err with lines := reporter.console.err.lines ++ err } } }

/-- The reporter when messages have been printed. -/
def after (reporter : Reporter) (messages : List Message) : Reporter :=
  { reporter.showing (messages.flatMap (·.outLines reporter.verbose reporter.echo))
      (messages.flatMap
        (·.errLines reporter.verbose reporter.echo reporter.console.isTerminal)) with
    events := reporter.events ++ messages.filterMap Message.event? }

variable {reporter : Reporter}

theorem IsOpen.showing (opened : reporter.IsOpen) (out err : List String) :
    (reporter.showing out err).IsOpen :=
  ⟨opened.working, opened.console⟩

theorem IsOpen.after (opened : reporter.IsOpen) (messages : List Message) :
    (reporter.after messages).IsOpen :=
  ⟨opened.working, opened.console⟩

theorem after_nil (reporter : Reporter) : reporter.after [] = reporter := by
  simp [Reporter.after, Reporter.showing]

theorem IsOpen.print_out (opened : reporter.IsOpen) (files : FileSystem) (lines : List String) :
    reporter.print files .out lines = reporter.showing lines [] := by
  simp [print, opened.working, Console.write?, Outlet.write?, opened.console.1, Reporter.showing]

theorem IsOpen.print_err (opened : reporter.IsOpen) (files : FileSystem) (lines : List String) :
    reporter.print files .err lines = reporter.showing [] lines := by
  simp [print, opened.working, Console.write?, Outlet.write?, opened.console.2, Reporter.showing]

theorem showing_nil (reporter : Reporter) : reporter.showing [] [] = reporter := by
  simp [Reporter.showing]

theorem IsOpen.printEvent (opened : reporter.IsOpen) (files : FileSystem) (event : Event) :
    reporter.printEvent files event =
      reporter.showing (Message.outLines reporter.verbose true (.event event))
        (Message.errLines reporter.verbose true reporter.console.isTerminal (.event event)) := by
  simp only [Reporter.printEvent, Message.outLines, Message.errLines]
  cases event.render? reporter.verbose with
  | none => simp [showing_nil]
  | some line =>
    cases event.isWarning with
    | true => exact opened.print_err files [line]
    | false => exact opened.print_out files [line]

theorem IsOpen.hear (opened : reporter.IsOpen) (files : FileSystem) (message : Message) :
    Listener.hear reporter files message = reporter.after [message] := by
  simp only [Listener.hear, Reporter.after, List.flatMap_singleton]
  cases message with
  | event event =>
    cases echoes : reporter.echo with
    | true =>
      simp only [↓reduceIte, opened.printEvent]
      rfl
    | false =>
      simp only [Message.outLines, Message.errLines, Bool.false_and, Bool.false_eq_true,
        ↓reduceIte, showing_nil]
      rfl
  | status status =>
    cases reporter.console.isTerminal with
    | true =>
      simp only [↓reduceIte, opened.print_err]
      simp [Message.outLines, Message.errLines, Message.event?, Reporter.showing]
    | false =>
      simp [Message.outLines, Message.errLines, Message.event?, Reporter.showing,
        List.filterMap_cons]

theorem after_append (reporter : Reporter) (first second : List Message) :
    reporter.after (first ++ second) = (reporter.after first).after second := by
  simp [Reporter.after, Reporter.showing]

theorem IsOpen.hom_after (opened : reporter.IsOpen) : Listener.Hom reporter.after where
  map_event messages files event := by
    rw [hear_message, after_append, (opened.after messages).hear]
  map_status messages files status := by
    rw [hear_message, after_append, (opened.after messages).hear]

end Reporter

/-! ## Runs -/

/-- The exit code of a run. -/
def Ending.exitCode : Ending → Nat
  | .usage exitCode => exitCode
  | .finished exitCode _ _ => exitCode

namespace Report

theorem toEnding_of_working {report : Report} (working : report.conclude.halted? = none) :
    report.toEnding =
      (.finished (exitCodeOf report.result) (unlines report.conclude.console.out.lines)
        (unlines report.conclude.console.err.lines), report.files) := by
  simp only [toEnding, working]

end Report

namespace Reporter.IsOpen

variable {reporter : Reporter}

/-- A move that is reported prints its transcript. -/
theorem runMove (opened : reporter.IsOpen) (files : FileSystem) (settings : Settings)
    (request : MoveRequest) :
    let heard := moveClassTelling ([] : List Message) files settings request
    runMove reporter files settings request =
      ⟨heard.result.map (·.toJson request.preview (reporter.after heard.events).events),
        heard.files, reporter.after heard.events⟩ := by
  have same := opened.hom_after.map_moveClassTelling [] files settings request
  rw [after_nil] at same
  simp only [ClassMove.runMove, same]
  rfl

theorem answer (opened : reporter.IsOpen) (line : String) :
    reporter.answer line = reporter.showing [line] [] := by
  simp [Reporter.answer, opened.working, Console.write?, Outlet.write?, opened.console.1,
    Reporter.showing]

theorem foldl_print (opened : reporter.IsOpen) (files : FileSystem) (lines : List String) :
    lines.foldl (fun reporter line => reporter.print files .err [line]) reporter =
      reporter.showing [] lines := by
  induction lines generalizing reporter with
  | nil => exact reporter.showing_nil.symm
  | cons line rest walk =>
    rw [List.foldl_cons, opened.print_err, walk (opened.showing [] [line])]
    simp [Reporter.showing]

/-- The end of a run in which everything can be written. -/
theorem toEnding {report : Report} (opened : report.reporter.IsOpen) :
    report.toEnding =
      (.finished (exitCodeOf report.result)
          (unlines (report.reporter.console.out.lines ++
            if report.reporter.echo then [] else [(envelope report.result).pretty]))
          (unlines (report.reporter.console.err.lines ++
            if report.reporter.echo then failureLines report.result else [])),
        report.files) := by
  have concluded : report.conclude = report.reporter.showing
      (if report.reporter.echo then [] else [(envelope report.result).pretty])
      (if report.reporter.echo then failureLines report.result else []) := by
    unfold Report.conclude
    split
    · exact opened.foldl_print ..
    · exact opened.answer _
  rw [Report.toEnding_of_working (by rw [concluded]; exact opened.working), concluded]
  rfl

end Reporter.IsOpen

/-! ## Runs that are not cut short -/

namespace Reporter

/-- Nothing that is still to be printed while the command works can fail: both readers stay, or
nothing is printed at all. -/
structure Undisturbed (reporter : Reporter) : Prop where
  working : reporter.halted? = none
  calm : reporter.console.IsOpen ∨ reporter.echo = false ∧ reporter.console.isTerminal = false

variable {reporter : Reporter}

theorem IsOpen.undisturbed (opened : reporter.IsOpen) : reporter.Undisturbed :=
  ⟨opened.working, .inl opened.console⟩

namespace Undisturbed

theorem isOpen (undisturbed : reporter.Undisturbed) (echoes : reporter.echo = true) :
    reporter.IsOpen := by
  rcases undisturbed with ⟨working, opened | ⟨silent, -⟩⟩
  · exact ⟨working, opened⟩
  · rw [echoes] at silent
    cases silent

theorem hear (files : FileSystem) (message : Message) (undisturbed : reporter.Undisturbed) :
    (Listener.hear reporter files message).Undisturbed := by
  rcases undisturbed with ⟨working, opened | ⟨silent, quiet⟩⟩
  · rw [IsOpen.hear ⟨working, opened⟩]
    exact (IsOpen.after ⟨working, opened⟩ _).undisturbed
  · cases message with
    | event event =>
      simp only [Listener.hear, silent, Bool.false_eq_true, ↓reduceIte]
      exact ⟨working, .inr ⟨rfl, quiet⟩⟩
    | status status =>
      simp only [Listener.hear, quiet, Bool.false_eq_true, ↓reduceIte]
      exact ⟨working, .inr ⟨silent, quiet⟩⟩

theorem inspectAll (undisturbed : reporter.Undisturbed) (files : FileSystem) (settings : Settings)
    (baseDir? : Option Path) (paths : List Path) :
    (inspectAll files settings baseDir? paths reporter).2.Undisturbed := by
  induction paths generalizing reporter with
  | nil => exact undisturbed
  | cons path rest walk =>
    have heard := Listener.keeps_inspectFileTelling (fun _ => hear) undisturbed files settings
      baseDir? path
    unfold ClassMove.inspectAll
    rcases inspected : inspectFileTelling reporter files settings baseDir? path with
      ⟨failure | inspection, after⟩ <;> rw [inspected] at heard
    · exact heard
    · apply walk
      split
      · next echoes =>
        have opened := heard.isOpen echoes
        rw [opened.print_out]
        exact (opened.showing _ _).undisturbed
      · exact heard

theorem run (undisturbed : reporter.Undisturbed) (files : FileSystem) (settings : Settings)
    (command : Command) : (command.run reporter files settings).reporter.Undisturbed := by
  cases command with
  | move source destination baseDir? dryRun git =>
    exact Listener.keeps_moveClassTelling (fun _ => hear) undisturbed files settings _
  | inspect paths baseDir? => exact undisturbed.inspectAll files settings baseDir? paths

end Undisturbed

end Reporter

end ClassMove
