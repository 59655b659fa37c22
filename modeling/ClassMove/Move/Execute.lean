import ClassMove.Event
import ClassMove.Move.Plan
import ClassMove.Source.Retarget

/-!
# Carrying out a move

The declarations of the source are edited in place, then the file is renamed.  The
edit is tried in a preview first, so that a source without two declarations to edit
is not touched.
-/

namespace ClassMove

/-- Make a directory and the directories above it that are missing. -/
def FileSystem.ensureDir (files : FileSystem) (path : Path) :
    Except Failure Unit × FileSystem :=
  match files.makeDirs path with
  | (.ok (), files) => (.ok (), files)
  | (.error refusal, files) => (.error (refusal.toFailure ("create " ++ path.display)), files)

/-- Rename a file, after making the directories that it goes to. -/
def FileSystem.relocate (files : FileSystem) (source target : Path) :
    Except Failure Unit × FileSystem :=
  let parent := target.parent?.getD ⟨[]⟩
  match if parent.isEmpty then (.ok (), files) else files.ensureDir parent with
  | (.error failure, files) => (.error failure, files)
  | (.ok (), files) =>
    match files.rename source target with
    | .ok files => (.ok (), files)
    | .error refusal =>
      (.error (refusal.toFailure ("move " ++ source.display ++ " to " ++ target.display)), files)

/-- The event of a move. -/
def MovePlan.movedEvent (plan : MovePlan) (current : Location) : Event :=
  .moved plan.old plan.new (plan.source.displayRelative current plan.base)
    (plan.target.displayRelative current plan.base)

/-- Edit the declarations of the source and rename it. -/
def applyMove (files : FileSystem) (plan : MovePlan) : Except Failure Unit × FileSystem :=
  match files.editDeclarations plan.source plan.new false with
  | .error failure => (.error failure, files)
  | .ok (_, files) => files.relocate plan.source plan.target

/-- Carry out a move, or in a preview only see that it could be begun. -/
def executeMove (files : FileSystem) (plan : MovePlan) (preview : Bool) :
    Except Failure Event × FileSystem :=
  match files.editDeclarations plan.source plan.new true with
  | .error failure => (.error failure, files)
  | .ok (planned, _) =>
    if planned < 2 then
      (.error (.of (.unexpected ("Rewrote " ++ Nat.repr planned ++ " of 2 declaration lines in " ++
        plan.source.display))), files)
    else if preview then (.ok (plan.movedEvent files.current), files)
    else
      match applyMove files plan with
      | (.error failure, files) => (.error failure, files)
      | (.ok (), files) => (.ok (plan.movedEvent files.current), files)

end ClassMove
