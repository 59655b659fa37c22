import ClassMove.Line.Basic
import ClassMove.Source.Edit

/-!
# Pointing declarations and imports at another class

Two editors of source files.  One gives the first package line and the first type
line of a file the names of another class; the other points every import of a class
at another one.  Both touch a line only up to the name.
-/

namespace ClassMove

/-! ## Declarations -/

/-- Which declarations are still to come. -/
structure Pending where
  package : Bool := true
  type : Bool := true
deriving DecidableEq

/-- Give a type line that is still to come the simple name of a class. -/
def declareType (name : ClassName) : Editor Pending := fun pending line =>
  match TypeLine.ofLine? line with
  | some found =>
    if pending.type then
      (.before line found.tail (found.head name.simple), { pending with type := false })
    else (.keep, pending)
  | none => (.keep, pending)

/-- Give the first package line and the first type line the names of a class. -/
def declare (name : ClassName) : Editor Pending := fun pending line =>
  match PackageLine.ofLine? line with
  | some found =>
    if pending.package then
      (.before line found.tail (found.head name.package), { pending with package := false })
    else declareType name pending line
  | none => declareType name pending line

/-- Let a file declare another class. -/
def FileSystem.editDeclarations (files : FileSystem) (path : Path) (name : ClassName)
    (preview : Bool) : Except Failure (Nat × FileSystem) :=
  (files.edit path preview (declare name) {}).map fun (revision, files) =>
    (revision.linesChanged, files)

/-! ## Imports -/

/-- What becomes of a line when imports of `old` are pointed at `new`. -/
def importEdit (old new : ClassName) (line : Text) : Edit :=
  match ImportLine.ofLine? line with
  | none => .keep
  | some found =>
    match found.suffixOf? old with
    | none => .keep
    | some suffix => .before line found.tail (found.head (new.qualified ++ suffix))

/-- Point every import of `old` at `new`. -/
def reimport (old new : ClassName) : Editor Unit := fun memory line =>
  (importEdit old new line, memory)

/-- Let a file import `new` where it imports `old`. -/
def FileSystem.editImports (files : FileSystem) (path : Path) (old new : ClassName)
    (preview : Bool) : Except Failure (Nat × FileSystem) :=
  (files.edit path preview (reimport old new) ()).map fun (revision, files) =>
    (revision.linesChanged, files)

end ClassMove
