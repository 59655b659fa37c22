import ClassMove.Event
import ClassMove.Files.Basic

/-!
# Who is told what happens

While a command works, it tells events, and it tells how far it has come.  Whoever is
told may keep the events, or print them at once; the work is the same.  What is told is
told at a moment, so the files of that moment are told with it.
-/

namespace ClassMove

/-- How far a command has come. -/
inductive Status where
  /-- The paths of a preview have been checked. -/
  | dryRun
  /-- The base has been found. -/
  | foundBase (base : String)
  /-- The source files below the base have been counted. -/
  | scanning (count : Nat)
deriving DecidableEq

/-- The line that shows how far a command has come. -/
def Status.line : Status → String
  | .dryRun => "[move] Dry run, no files will be changed"
  | .foundBase base => "[move] Using base directory " ++ base
  | .scanning count => "[imports] Scanning " ++ Nat.repr count ++ " source files"

/-- Something that is told. -/
inductive Message where
  | event (event : Event)
  | status (status : Status)
deriving DecidableEq

/-- Those who can be told something while the files are as given. -/
class Listener (Told : Type) where
  hear : Told → FileSystem → Message → Told

/-- A list keeps the events. -/
instance : Listener (List Event) where
  hear events _
    | .event event => events ++ [event]
    | .status _ => events

@[simp]
theorem hear_event (events : List Event) (files : FileSystem) (event : Event) :
    Listener.hear events files (.event event) = events ++ [event] :=
  rfl

@[simp]
theorem hear_status (events : List Event) (files : FileSystem) (status : Status) :
    Listener.hear events files (.status status) = events :=
  rfl

end ClassMove
