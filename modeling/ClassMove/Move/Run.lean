import ClassMove.Move.Base
import ClassMove.Move.Propagate

/-!
# Moving a class

A move runs in a fixed order: the paths are checked, the base is found, the classes
are worked out, the file is moved, and the imports follow.  Nothing is changed
before the last check has passed.
-/

namespace ClassMove

/-- What a move did. -/
structure MoveResult where
  old : ClassName
  new : ClassName
  oldPath : String
  newPath : String
  base : String
  /-- False in a preview. -/
  applied : Bool
  updatedFiles : List UpdatedFile
deriving DecidableEq

/-- The end of a move: its result, the files as they are then, and what was heard on the way. -/
structure MoveOutcome (Told : Type := List Event) where
  result : Except Failure MoveResult
  files : FileSystem
  events : Told

/-- Carry out a plan and let the imports follow. -/
def runPlan {Told : Type} [Listener Told] (told : Told) (settings : Settings)
    (preview : Bool) (plan : MovePlan) (files : FileSystem) (resolver : Resolver) :
    MoveOutcome Told :=
  match executeMove files plan preview with
  | (.error failure, files) => ⟨.error failure, files, told⟩
  | (.ok event, files) =>
    let events := Listener.hear told files (.event event)
    match propagate plan settings preview { files, resolver, events } with
    | (.error failure, progress) => ⟨.error failure, progress.files, progress.events⟩
    | (.ok (), progress) =>
      ⟨.ok
        { old := plan.old
          new := plan.new
          oldPath := plan.source.displayRelative files.current plan.base
          newPath := plan.target.displayRelative files.current plan.base
          base := plan.base.display
          applied := !preview
          updatedFiles := progress.updated },
        progress.files, progress.events⟩

/-- Move a class and let everything that imports it follow. -/
def moveClassTelling {Told : Type} [Listener Told] (told : Told) (files : FileSystem)
    (settings : Settings) (request : MoveRequest) : MoveOutcome Told :=
  match checkMove files request with
  | .error failure => ⟨.error failure, files, told⟩
  | .ok checked =>
    let told := if request.preview then Listener.hear told files (.status .dryRun) else told
    match resolveBaseTelling told files settings request.baseDir? checked.source.toPath with
    | (.error failure, told) => ⟨.error failure, files, told⟩
    | (.ok base, told) =>
      match planMove files checked { base } with
      | (.error failure, _) => ⟨.error failure, files, told⟩
      | (.ok plan, resolver) => runPlan told settings request.preview plan files resolver

/-- Move a class and let everything that imports it follow, with the events that are told. -/
def moveClass (files : FileSystem) (settings : Settings) (request : MoveRequest) :
    MoveOutcome :=
  moveClassTelling [] files settings request

end ClassMove
