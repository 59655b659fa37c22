import ClassMove.Line.Import
import ClassMove.Line.Package
import ClassMove.Line.TypeDeclaration

/-!
# Lines of a source file

Each line declares the package, imports something, declares a type, or does none
of these.
-/

namespace ClassMove

/-- What a line of a source file says. -/
inductive Line where
  | package (line : PackageLine)
  | importing (line : ImportLine)
  | type (line : TypeLine)
  | other
deriving DecidableEq

/-- Read a line. -/
def Line.ofText (text : Text) : Line :=
  match PackageLine.ofLine? text with
  | some line => .package line
  | none =>
    match ImportLine.ofLine? text with
    | some line => .importing line
    | none =>
      match TypeLine.ofLine? text with
      | some line => .type line
      | none => .other

end ClassMove
