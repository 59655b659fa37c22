import ClassMove.Identity.Resolver

/-!
# Planning a move

A request is checked against the file system without reading any file; then the
two classes are worked out, the old one from what the source declares and the new
one from where the destination lies.
-/

namespace ClassMove

/-- What is asked for. -/
structure MoveRequest where
  source : Path
  destination : Path
  baseDir? : Option Path := none
  /-- Only say what would be done. -/
  preview : Bool := false
  /-- Move by way of version control, which is not available. -/
  versionControl : Bool := false
deriving DecidableEq

/-- A request that passed its checks. -/
structure CheckedMove where
  source : Location
  destination : Location
  dialect : Dialect
deriving DecidableEq

/-- A move with both classes known. -/
structure MovePlan where
  base : Path
  source : Path
  target : Path
  dialect : Dialect
  old : ClassName
  new : ClassName
deriving DecidableEq

/-- The place for a file that is moved to `destination`: an entry of it, if it is a directory. -/
def placeFor (files : FileSystem) (source destination : Location) : Location :=
  if files.hasDir destination then destination.descend source.fileName?.toList else destination

/-- Check the paths of a request. -/
def checkMove (files : FileSystem) (request : MoveRequest) : Except Failure CheckedMove :=
  let shown := request.source.display
  let source := files.locationOf request.source
  if request.versionControl then .error (.unsupported "git")
  else
    match files.reach? source with
    | none => .error (.of (.sourceNotFound shown))
    | some (.dir _) => .error (.of (.sourceNotFile shown))
    | some (.file _) =>
      match Dialect.ofLocation? source with
      | none =>
        .error (.of (.invalidArgument "source" "Source is not a .java or .groovy file"
          (some shown)))
      | some dialect =>
        let destination := placeFor files source (files.locationOf request.destination)
        if (files.reach? destination).isSome then .error (.destinationExists destination.display)
        else if destination.extension? = some dialect.extension then
          .ok ⟨source, destination, dialect⟩
        else
          .error (.of (.dialectMismatch shown destination.display dialect.extension.asString
            (destination.extension?.map Text.asString)))

/-- Work out both classes of a checked move. -/
def planMove (files : FileSystem) (checked : CheckedMove) (resolver : Resolver) :
    Except Failure MovePlan × Resolver :=
  match resolver.resolve files .contents .cached checked.source with
  | (.error failure, resolver) => (.error failure, resolver)
  | (.ok old, resolver) =>
    match resolver.resolve files .location .cached checked.destination with
    | (.error failure, resolver) => (.error failure, resolver)
    | (.ok new, resolver) =>
      let base := resolver.base.toPath
      (.ok { base
             source := checked.source.toPath
             target := base.join (new.name.relativePath checked.dialect.extension)
             dialect := checked.dialect
             old := old.name
             new := new.name }, resolver)

end ClassMove
