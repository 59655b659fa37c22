import ClassMove.Command.Arguments
import ClassMove.Command.Console
import ClassMove.Settings.Config

/-!
# Running a command

A command is run on a file system and leaves another one.  Two switches choose how it is
told about: for people or for programs, and in how many words.
-/

namespace ClassMove

/-- What a run prints and how it ends. -/
inductive Ending where
  /-- Help or the right use was shown. -/
  | usage (exitCode : Nat)
  /-- The command was run. -/
  | finished (exitCode : Nat) (stdout stderr : String)
deriving DecidableEq

/-- What a command did: its data or its failure, the files as they are then, and who was told. -/
structure Report where
  result : Except Failure Json
  files : FileSystem
  reporter : Reporter

/-- The exit code of a result. -/
def exitCodeOf {α : Type} : Except Failure α → Nat
  | .ok _ => 0
  | .error failure => failure.cause.exitCode

/-- The exit code of a run that could not write. -/
def haltedExitCode : Nat := 101

/-- What is said about a failure in text. -/
def failureLines {α : Type} : Except Failure α → List String
  | .ok _ => []
  | .error failure => failure.toLines

/-- Say how the work ended: a failure line by line for people, the whole answer for programs. -/
def Report.conclude (report : Report) : Reporter :=
  if report.reporter.echo then
    (failureLines report.result).foldl
      (fun reporter line => reporter.print report.files .err [line]) report.reporter
  else report.reporter.answer (envelope report.result).pretty

/-- The end of a run.  If something could not be written, the run ended there. -/
def Report.toEnding (report : Report) : Ending × FileSystem :=
  let reporter := report.conclude
  let ending exitCode := .finished exitCode (unlines reporter.console.out.lines)
    (unlines reporter.console.err.lines)
  match reporter.halted? with
  | some files => (ending haltedExitCode, files)
  | none => (ending (exitCodeOf report.result), report.files)

/-- Run a move. -/
def runMove (reporter : Reporter) (files : FileSystem) (settings : Settings)
    (request : MoveRequest) : Report :=
  let outcome := moveClassTelling reporter files settings request
  { result := outcome.result.map (·.toJson request.preview outcome.events.events)
    files := outcome.files
    reporter := outcome.events }

/-- Inspect one file after another up to the first failure.  For people, each inspection is printed
before the next file is looked at. -/
def inspectAll (files : FileSystem) (settings : Settings) (baseDir? : Option Path) :
    List Path → Reporter → Except Failure (List Inspection) × Reporter
  | [], reporter => (.ok [], reporter)
  | path :: rest, reporter =>
    match inspectFileTelling reporter files settings baseDir? path with
    | (.error failure, reporter) => (.error failure, reporter)
    | (.ok inspection, reporter) =>
      let shown :=
        if reporter.echo then reporter.print files .out inspection.toLines else reporter
      let (inspections, reporter) := inspectAll files settings baseDir? rest shown
      (inspections.map (inspection :: ·), reporter)

/-- Run an inspection. -/
def runInspect (reporter : Reporter) (files : FileSystem) (settings : Settings)
    (baseDir? : Option Path) (paths : List Path) : Report :=
  let (inspections, reporter) := inspectAll files settings baseDir? paths reporter
  { result := inspections.map inspectionsJson, files, reporter }

/-- Run a command. -/
def Command.run (reporter : Reporter) (files : FileSystem) (settings : Settings) :
    Command → Report
  | .move source destination baseDir? dryRun git =>
    runMove reporter files settings
      { source, destination, baseDir?, preview := dryRun, versionControl := git }
  | .inspect paths baseDir? => runInspect reporter files settings baseDir? paths

/-- Run a command with its switches, for a user with or without a home directory. -/
def Invocation.run (invocation : Invocation) (console : Console) (files : FileSystem)
    (home? : Option Path) : Ending × FileSystem :=
  let reporter : Reporter :=
    { verbose := invocation.verbose, echo := !invocation.json, console }
  (invocation.command.run reporter files (Settings.ofHome files home?)).toEnding

/-- The name and version of the program. -/
def versionLine : String := "classmv 0.1.0"

/-- How a run ends that has no command. -/
def Stop.toEnding : Stop → Ending
  | .help => .usage 0
  | .version => .finished 0 (unlines [versionLine]) ""
  | .misuse => .usage 2

/-- Run the program with arguments.  Unless a console is given, standard error is no terminal. -/
def runProgram (files : FileSystem) (home? : Option Path) (arguments : List String)
    (console : Console := {}) : Ending × FileSystem :=
  match Invocation.ofArguments arguments with
  | .error stop => (stop.toEnding, files)
  | .ok invocation => invocation.run console files home?

end ClassMove
