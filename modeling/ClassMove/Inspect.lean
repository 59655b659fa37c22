import ClassMove.Move.Base
import ClassMove.Identity.Resolver

/-!
# Inspecting a file

How the class of a file derives from where it lies and from what it declares, and
whether the two agree.  Nothing is changed.
-/

namespace ClassMove

/-- The two identities of a file. -/
structure Inspection where
  path : String
  base : String
  dialect : Dialect
  location? : Option ClassName
  contents? : Option ClassName
  imports : List ClassName
  /-- Unknown when one of the two identities is missing. -/
  consistent? : Option Bool
  problems : List String
deriving DecidableEq

/-- An identity, or the problem that prevents it. -/
def identityOrProblem (found : Except Failure Identity) :
    Except Failure (Option Identity × List String) :=
  match found with
  | .ok identity => .ok (some identity, [])
  | .error failure =>
    if failure.cause.isSkippable then .ok (none, [failure.cause.message]) else .error failure

/-- Do two identities agree, if both are known? -/
def agreement? (dialect : Dialect) : Option Identity → Option Identity → Option Bool
  | some location, some contents => some (identitiesAgree dialect location.name contents.name)
  | _, _ => none

/-- Derive both identities of a file below a base. -/
def inspectBelow (files : FileSystem) (dialect : Dialect) (base location : Location) :
    Except Failure Inspection :=
  let (located, resolver) := Resolver.resolve { base } files .location .cached location
  match identityOrProblem located with
  | .error failure => .error failure
  | .ok (located?, locationProblems) =>
    match identityOrProblem (resolver.resolve files .contents .cached location).1 with
    | .error failure => .error failure
    | .ok (declared?, contentsProblems) =>
      .ok
        { path := base.displayBelow location
          base := base.display
          dialect
          location? := located?.map Identity.name
          contents? := declared?.map Identity.name
          imports := (declared?.map Identity.imports).getD []
          consistent? := agreement? dialect located? declared?
          problems := locationProblems ++ contentsProblems }

/-- Inspect the file at a path. -/
def inspectFileTelling {Told : Type} [Listener Told] (told : Told) (files : FileSystem)
    (settings : Settings) (baseDir? : Option Path) (path : Path) :
    Except Failure Inspection × Told :=
  let shown := path.display
  let location := files.locationOf path
  match files.reach? location with
  | none => (.error (.of (.sourceNotFound shown)), told)
  | some (.dir _) => (.error (.of (.sourceNotFile shown)), told)
  | some (.file _) =>
    match Dialect.ofLocation? location with
    | none =>
      (.error (.of (.invalidArgument "file" "File is not a .java or .groovy file"
        (some shown))), told)
    | some dialect =>
      match resolveBaseTelling told files settings baseDir? location.toPath with
      | (.error failure, told) => (.error failure, told)
      | (.ok base, told) => (inspectBelow files dialect base location, told)

/-- Inspect the file at a path, with the events that are told. -/
def inspectFile (files : FileSystem) (settings : Settings) (baseDir? : Option Path)
    (path : Path) : Except Failure Inspection × List Event :=
  inspectFileTelling [] files settings baseDir? path

end ClassMove
