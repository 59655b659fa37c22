import ClassMove.Files.Basic

/-!
# Walking a tree

The files below a directory, depth first, with the entries of each directory in
the order of their names.  Directories with certain names are not entered; the
directory where the walk starts is entered whatever its name is.  A directory that
is so deep that its path is too long cannot be listed.
-/

namespace ClassMove

mutual

/-- The files of a tree, each as the names that lead to it. -/
def Node.walk (skip : List Text) : Node → List (List FileName)
  | .file _ => [[]]
  | .dir entries => walkEntries skip entries

/-- The files below the entries of a directory. -/
def walkEntries (skip : List Text) : List (FileName × Node) → List (List FileName)
  | [] => []
  | (name, node) :: rest =>
    (if node.isDir && name.isAmong skip then []
      else (node.walk skip).map (name :: ·)) ++ walkEntries skip rest

end

/-- Can the directory be listed that holds the file at `names` below `start`? -/
def isListed (start : Path) (names : List FileName) : Bool :=
  !(start.descend names.dropLast).isTooLong

/-- The files below `start` that are kept, as paths that begin with the spelling of `start`. -/
def FileSystem.collect (files : FileSystem) (start : Path) (skip : List Text)
    (keep : Path → Bool) : List Path :=
  match files.stat start with
  | .error _ => []
  | .ok node => (((node.walk skip).filter (isListed start)).map start.descend).filter keep

end ClassMove
