import ClassMove.Files.Basic

/-!
# Changing a file system

Overwriting a file, making directories and renaming, each with the refusals that
the operating system answers with.  A refused operation changes nothing, except
that making a whole chain of directories keeps those that were made before the
refusal.
-/

namespace ClassMove.FileSystem

/-- Put a file at a location. -/
def writeAt (files : FileSystem) (location : Location) (octets : List UInt8) : FileSystem :=
  { files with
    tree := files.tree.set location.names (.file octets)
    ordered := files.ordered.set (.file octets) location.names }

/-- Put an empty directory at a location. -/
def makeDirAt (files : FileSystem) (location : Location) : FileSystem :=
  { files with
    tree := files.tree.set location.names (.dir [])
    ordered := files.ordered.set .empty location.names }

/-- Take away what is at a location. -/
def eraseAt (files : FileSystem) (location : Location) : FileSystem :=
  { files with
    tree := files.tree.erase location.names
    ordered := files.ordered.erase location.names }

/-- Move what is at one location to another. -/
def moveAt (files : FileSystem) (source target : Location) : FileSystem :=
  { files with
    tree := files.tree.move source.names target.names
    ordered := files.ordered.move source.names target.names }

/-- Give the file that a path leads to new octets. -/
def overwrite (files : FileSystem) (path : Path) (octets : List UInt8) : FileSystem :=
  match files.locate path with
  | .ok cursor => files.writeAt cursor.location octets
  | .error _ => files

/-! ## The last piece of a path -/

/-- The pieces of a path without the empty ones at its end. -/
def written (path : Path) : List Piece :=
  (path.pieces.reverse.dropWhile (· == .empty)).reverse

/-- The directory that the last piece of a path is looked up in, and that piece.  The root itself
has no such piece. -/
def locateParent (files : FileSystem) (path : Path) :
    Except OsError (Option (Cursor × Piece)) :=
  match (written path).getLast? with
  | none => do
    accept path
    .ok none
  | some piece => do
    let cursor ← files.follow path (written path).dropLast
    if cursor.node.isDir then .ok (some (cursor, piece)) else .error .notDirectory

/-! ## Directories -/

/-- Make one directory. -/
def makeDir (files : FileSystem) (path : Path) : Except OsError FileSystem := do
  match ← files.locateParent path with
  | some (cursor, .down name) =>
    match cursor.node.child? name with
    | some _ => .error .exists
    | none =>
      if name.isTooLong then .error .nameTooLong
      else .ok (files.makeDirAt (cursor.location.descend [name]))
  | _ => .error .exists

/-- Make the first of the paths a directory, and before it the ones that follow in the list if
they are needed.  The list holds a path and its ancestors, nearest first. -/
def makeChain (files : FileSystem) : List Path → Except OsError Unit × FileSystem
  | [] => (.ok (), files)
  | path :: ancestors =>
    if path.isEmpty then (.ok (), files)
    else
      match files.makeDir path with
      | .ok made => (.ok (), made)
      | .error .notFound =>
        match makeChain files ancestors with
        | (.error refusal, made) => (.error refusal, made)
        | (.ok (), made) =>
          match made.makeDir path with
          | .ok done => (.ok (), done)
          | .error refusal => (if made.isDir path then .ok () else .error refusal, made)
      | .error refusal => (if files.isDir path then .ok () else .error refusal, files)

/-- Make a directory and the directories above it that are missing. -/
def makeDirs (files : FileSystem) (path : Path) : Except OsError Unit × FileSystem :=
  if files.isDir path then (.ok (), files) else files.makeChain path.ancestors

/-! ## Renaming -/

/-- May a node of the first kind take the place of the second one? -/
def replaceable (moved : Node) : Node → Except OsError Unit
  | .file _ => if moved.isDir then .error .notDirectory else .ok ()
  | .dir entries =>
    if !moved.isDir then .error .isDirectory
    else if entries.isEmpty then .ok ()
    else .error .notEmpty

/-- Move an entry of one directory to another, where `slash` says whether one of the two paths was
written with a slash at its end. -/
def moveEntry (files : FileSystem) (sourceDir : Location) (sourceName : FileName)
    (targetDir : Location) (targetName : FileName) (slash : Bool) : Except OsError FileSystem :=
  let source := sourceDir.descend [sourceName]
  let target := targetDir.descend [targetName]
  match files.find? source, files.find? target with
  | none, _ => .error (Cursor.missing sourceName)
  | some moved, old =>
    if old.isNone && targetName.isTooLong then .error .nameTooLong
    else if !moved.isDir && slash then .error .notDirectory
    else if source = target then .ok files
    else if (source.below? target).isSome then .error .invalidArgument
    else if (target.below? source).isSome then .error .notEmpty
    else do
      old.forM (replaceable moved)
      .ok (files.moveAt source target)

/-- Rename what the path `source` leads to.  Both paths are searched for a NUL before either of
them is followed. -/
def rename (files : FileSystem) (source target : Path) : Except OsError FileSystem := do
  if source.holdsNul || target.holdsNul then .error .nulInName
  else
    let sourceEnd ← files.locateParent source
    let targetEnd ← files.locateParent target
    match sourceEnd, targetEnd with
    | some (sourceDir, .down sourceName), some (targetDir, .down targetName) =>
      files.moveEntry sourceDir.location sourceName targetDir.location targetName
        (source.endsInSlash || target.endsInSlash)
    | _, _ => .error .busy

end ClassMove.FileSystem
