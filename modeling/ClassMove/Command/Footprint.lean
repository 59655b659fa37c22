import ClassMove.Command.Arguments
import ClassMove.Move.Base

/-!
# What a command looks at

The paths that a command mentions and the package trees that it may search.  A
caller that keeps the files elsewhere has to know no more of them than these.
-/

namespace ClassMove

/-- The paths whose presence a command asks about. -/
def Command.mentioned : Command → List Path
  | .move source destination baseDir? _ _ =>
    [source, destination] ++ baseDir?.toList ++
      (source.fileName?.map destination.child).toList
  | .inspect files baseDir? => files ++ baseDir?.toList

/-- The files whose class a command works out. -/
def Command.subjects : Command → List Path
  | .move source .. => [source]
  | .inspect files _ => files

/-- The base directory that a command was given. -/
def Command.baseDir? : Command → Option Path
  | .move _ _ baseDir? _ _ => baseDir?
  | .inspect _ baseDir? => baseDir?

/-- The package trees that a command may search. -/
def Command.bases (current : Location) (settings : Settings) (command : Command) :
    List Location :=
  match command.baseDir? with
  | some base => [Location.ofPath current base]
  | none =>
    command.subjects.filterMap fun path =>
      (Location.ofPath current path).detectBase? settings.baseMarkers settings.maxAscent

end ClassMove
