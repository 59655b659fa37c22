import ClassMove.Files.Basic

/-!
# What changed between two trees

The entries that were added, altered or taken away, each with the names that lead
to it.  Applying the list to the first tree gives the second one, so a caller that
keeps the tree elsewhere can follow along.
-/

namespace ClassMove

/-- What happened to one entry. -/
inductive Change where
  /-- A file is new or has other octets. -/
  | wrote (octets : List UInt8)
  /-- A directory is new. -/
  | made
  /-- A file is gone. -/
  | removedFile
  /-- A directory is gone. -/
  | removedDir
deriving DecidableEq

mutual

/-- Every entry of a tree, directories before what they hold. -/
def Node.listing : Node → List (List FileName × Option (List UInt8))
  | .file octets => [([], some octets)]
  | .dir entries => ([], none) :: listEntries entries

/-- Every entry below the entries of a directory. -/
def listEntries : List (FileName × Node) → List (List FileName × Option (List UInt8))
  | [] => []
  | (name, node) :: rest =>
    node.listing.map (fun (names, kind) => (name :: names, kind)) ++ listEntries rest

end

/-- The changes that lead from one tree to another: what is gone, then what is new. -/
def Node.changes (old new : Node) : List (List FileName × Change) :=
  let gone := old.listing.filterMap fun (names, kind) =>
    match new.get? names, kind with
    | some (.file _), some _ => none
    | some (.dir _), none => none
    | _, some _ => some (names, .removedFile)
    | _, none => some (names, .removedDir)
  let fresh := new.listing.filterMap fun (names, kind) =>
    match kind, old.get? names with
    | none, some (.dir _) => none
    | none, _ => some (names, .made)
    | some octets, some (.file before) =>
      if before = octets then none else some (names, .wrote octets)
    | some octets, _ => some (names, .wrote octets)
  gone.reverse ++ fresh

end ClassMove
