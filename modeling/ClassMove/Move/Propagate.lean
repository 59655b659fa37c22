import ClassMove.Files.Walk
import ClassMove.Listener
import ClassMove.Move.Execute
import ClassMove.Settings.Basic

/-!
# Imports that follow a move

Every source file below the base is read, and its imports of the moved class are
pointed at the new one.  A file that cannot be read as source is passed over with a
warning; a file whose two identities differ is noticed with a warning.  Any other
failure ends the walk, and what was done until then stays.
-/

namespace ClassMove

/-- A file whose imports were updated, and how many lines of it. -/
structure UpdatedFile where
  path : String
  lines : Nat
deriving DecidableEq

/-- How far a walk has come, and what was heard of it. -/
structure Progress (Told : Type := List Event) where
  files : FileSystem
  resolver : Resolver
  events : Told
  updated : List UpdatedFile := []

section

variable {Told : Type} [Listener Told]

namespace Progress

/-- Tell an event. -/
def tell (progress : Progress Told) (event : Event) : Progress Told :=
  { progress with events := Listener.hear progress.events progress.files (.event event) }

end Progress

/-- Why a file is passed over. -/
def skipReason : Cause → String
  | .malformed _ rule (some line) =>
    "skipped, malformed " ++ rule ++ " at line " ++ Nat.repr line
  | .malformed _ rule none => "skipped, " ++ rule
  | cause => "skipped, " ++ cause.message

/-- Compare the two identities of a file, and warn if they differ. -/
def checkConsistency (file : Path) (shown : String) (contents : ClassName)
    (progress : Progress Told) : Progress Told :=
  match Dialect.ofPath? file with
  | none => progress
  | some dialect =>
    match progress.resolver.resolvePath progress.files .location .fresh file with
    | (.error _, resolver) => { progress with resolver }
    | (.ok located, resolver) =>
      let progress := { progress with resolver }
      if identitiesAgree dialect located.name contents then progress
      else
        progress.tell (.warning .identityMismatch (some shown)
          ("declares " ++ contents.display ++ " but is located as " ++ located.name.display))

/-- Note that lines of a file were updated. -/
def recordUpdate (plan : MovePlan) (shown : String) (lines : Nat)
    (progress : Progress Told) : Progress Told :=
  if lines = 0 then
    progress.tell (.warning .importNotUpdated (some shown)
      ("imports " ++ plan.old.display ++ " but no import line could be rewritten"))
  else
    let progress := progress.tell (.importsUpdated shown plan.old plan.new lines)
    { progress with updated := progress.updated ++ [⟨shown, lines⟩] }

/-- Update the imports of one file. -/
def visitFile (plan : MovePlan) (preview : Bool) (file : Path)
    (progress : Progress Told) : Except Failure Unit × Progress Told :=
  let shown := file.displayRelative progress.files.current plan.base
  match progress.resolver.resolvePath progress.files .contents .fresh file with
  | (.error failure, resolver) =>
    let progress := { progress with resolver }
    if failure.cause.isSkippable then
      (.ok (), progress.tell (.warning .malformedSource (some shown) (skipReason failure.cause)))
    else (.error failure, progress)
  | (.ok contents, resolver) =>
    let progress := checkConsistency file shown contents.name { progress with resolver }
    if contents.importsClass plan.old then
      match progress.files.editImports file plan.old plan.new preview with
      | .error failure => (.error failure, progress)
      | .ok (lines, files) => (.ok (), recordUpdate plan shown lines { progress with files })
    else (.ok (), progress)

/-- Update the imports of one file after another. -/
def visitFiles (plan : MovePlan) (preview : Bool) :
    List Path → Progress Told → Except Failure Unit × Progress Told
  | [], progress => (.ok (), progress)
  | file :: rest, progress =>
    match visitFile plan preview file progress with
    | (.error failure, progress) => (.error failure, progress)
    | (.ok (), progress) => visitFiles plan preview rest progress

/-- The source files below the base. -/
def sourceFiles (files : FileSystem) (plan : MovePlan) (settings : Settings) : List Path :=
  files.collect plan.base settings.skipDirs fun path => (Dialect.ofPath? path).isSome

/-- The source files whose imports are looked at.  In a preview the moved file still lies at its old
path, and is left out. -/
def filesToVisit (files : FileSystem) (plan : MovePlan) (settings : Settings)
    (preview : Bool) : List Path :=
  let found := sourceFiles files plan settings
  if preview then found.filter (!·.sameAs plan.source) else found

/-- Update all imports of the moved class. -/
def propagate (plan : MovePlan) (settings : Settings) (preview : Bool)
    (progress : Progress Told) : Except Failure Unit × Progress Told :=
  if plan.old = plan.new then (.ok (), progress)
  else
    let count := (sourceFiles progress.files plan settings).length
    let events := Listener.hear progress.events progress.files (.status (.scanning count))
    visitFiles plan preview (filesToVisit progress.files plan settings preview)
      { progress with events }

end

end ClassMove
