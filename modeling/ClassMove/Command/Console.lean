import ClassMove.Command.Output
import ClassMove.Listener

/-!
# The console

A command writes to two streams.  Lines for people are written while the command works:
events on standard output, warnings on standard error, and how far the work has come on
standard error if that is a terminal.

The reader of a stream may go away.  Writing for people to such a stream ends the run at
once, and the files stay as they are at that moment: nothing that the command would have
done later counts.  The one answer for programs, which is written when the work is done,
is dropped instead.
-/

namespace ClassMove

/-- Where something is written. -/
inductive Stream where
  | out
  | err
deriving DecidableEq

/-- A stream: the lines written so far, and how many more times something can be written before its
reader goes away, if that happens at all. -/
structure Outlet where
  lines : List String := []
  room? : Option Nat := none
deriving DecidableEq

/-- Write lines at once, unless the reader has gone away. -/
def Outlet.write? (outlet : Outlet) (lines : List String) : Option Outlet :=
  match outlet.room? with
  | none => some { outlet with lines := outlet.lines ++ lines }
  | some 0 => none
  | some (room + 1) => some { lines := outlet.lines ++ lines, room? := some room }

/-- The two streams, and whether standard error is a terminal. -/
structure Console where
  out : Outlet := {}
  err : Outlet := {}
  isTerminal : Bool := false
deriving DecidableEq

/-- Write lines to one of the streams. -/
def Console.write? (console : Console) (lines : List String) : Stream → Option Console
  | .out => (console.out.write? lines).map fun out => { console with out }
  | .err => (console.err.write? lines).map fun err => { console with err }

/-- Who keeps the events, and prints them while a command works if they are for people. -/
structure Reporter where
  /-- Say more about events, and show warnings at all. -/
  verbose : Bool
  /-- Print for people.  Programs get one answer when the work is done. -/
  echo : Bool
  console : Console
  events : List Event := []
  /-- The files at the moment when something could not be written. -/
  halted? : Option FileSystem := none

namespace Reporter

/-- Print lines for people.  Nothing is printed after something could not be written. -/
def print (reporter : Reporter) (files : FileSystem) (stream : Stream) (lines : List String) :
    Reporter :=
  match reporter.halted? with
  | some _ => reporter
  | none =>
    match reporter.console.write? lines stream with
    | some console => { reporter with console }
    | none => { reporter with halted? := some files }

/-- Print the line of an event, if it has one. -/
def printEvent (reporter : Reporter) (files : FileSystem) (event : Event) : Reporter :=
  match event.render? reporter.verbose with
  | some line => reporter.print files (if event.isWarning then .err else .out) [line]
  | none => reporter

/-- Print the answer for programs, if there is still someone to read it. -/
def answer (reporter : Reporter) (line : String) : Reporter :=
  match reporter.halted? with
  | some _ => reporter
  | none => { reporter with console := (reporter.console.write? [line] .out).getD reporter.console }

instance : Listener Reporter where
  hear reporter files
    | .event event =>
      let printed := if reporter.echo then reporter.printEvent files event else reporter
      { printed with events := reporter.events ++ [event] }
    | .status status =>
      if reporter.console.isTerminal then reporter.print files .err [status.line] else reporter

end Reporter

end ClassMove
