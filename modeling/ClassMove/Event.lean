import ClassMove.ClassName

/-!
# Events

What happens during a move is told as a list of events.  An event may be shown as
a line: moves and updated imports always, with the class names when more is to be
said, warnings only then.
-/

namespace ClassMove

/-- What a warning is about. -/
inductive WarningKind where
  | malformedSource
  | identityMismatch
  | baseDirNotFound
  | importNotUpdated
deriving DecidableEq

/-- The word for a kind of warning, for programs. -/
def WarningKind.word : WarningKind → String
  | .malformedSource => "malformed_source"
  | .identityMismatch => "identity_mismatch"
  | .baseDirNotFound => "base_dir_not_found"
  | .importNotUpdated => "import_not_rewritten"

/-- Something worth telling. -/
inductive Event where
  /-- A class was moved. -/
  | moved (old new : ClassName) (oldPath newPath : String)
  /-- Import lines of a file were pointed at the moved class. -/
  | importsUpdated (file : String) (old new : ClassName) (lines : Nat)
  /-- Something looks wrong. -/
  | warning (kind : WarningKind) (file? : Option String) (message : String)
deriving DecidableEq

namespace Event

/-- Is the event a warning? -/
def isWarning : Event → Bool
  | .warning .. => true
  | _ => false

/-- Two classes with an arrow between them, in parentheses. -/
def arrow (old new : ClassName) : String :=
  " (" ++ old.display ++ " -> " ++ new.display ++ ")"

/-- The line that shows an event, if it is shown. -/
def render? (verbose : Bool) : Event → Option String
  | .moved old new oldPath newPath =>
    some ("moved " ++ oldPath ++ " -> " ++ newPath ++ if verbose then arrow old new else "")
  | .importsUpdated file old new _ =>
    some ("updated imports in " ++ file ++ if verbose then arrow old new else "")
  | .warning _ file? message =>
    if verbose then
      match file? with
      | some file => some ("warning: " ++ file ++ ": " ++ message)
      | none => some ("warning: " ++ message)
    else none

/-- The lines that show a list of events. -/
def lines (verbose : Bool) (events : List Event) : List String :=
  events.filterMap (render? verbose)

/-- The number of warnings. -/
def warningCount (events : List Event) : Nat :=
  events.countP isWarning

/-- An event as a JSON value, with its keys in order. -/
def toJson : Event → Json
  | .moved old new oldPath newPath =>
    .object [("event", .string "moved"), ("from", .string old.display),
      ("from_path", .string oldPath), ("to", .string new.display), ("to_path", .string newPath)]
  | .importsUpdated file old new lines =>
    .object [("event", .string "imports_updated"), ("file", .string file),
      ("from", .string old.display), ("lines", .number lines), ("to", .string new.display)]
  | .warning kind file? message =>
    .object ([("event", .string "warning")] ++ Json.field? "file" (file?.map .string) ++
      [("kind", .string kind.word), ("message", .string message)])

end Event

end ClassMove
