import ClassMove.Proofs.Path.Order
import ClassMove.Proofs.Path.Spelling

/-!
# Normalized paths

The plain spelling of the location of a path is found by folding the path: its components
are taken one after another from the root on, a name goes behind what is folded so far, and
two dots take the last name off.  So it does not matter for the place of a path whether
something in front of it was folded before, how far it climbs, or where it starts.

What is shown of a path, relative to a base or in full, leads from the base to a place that is
shown like the place of the path.  It is the place of the path exactly if every name that is
shown encodes a text.
-/

namespace ClassMove

namespace Path

/-- Put a component behind a folded path.  The root starts anew, and two dots at the root stay
there. -/
def foldPiece (folded : Path) : Piece → Path
  | .empty => Location.root.toPath
  | .here => folded
  | .up => folded.parent?.getD folded
  | .down name => folded.child name

/-- The path, behind the directory `working` if it is relative, with its components folded one after
another. -/
def folded (working path : Path) : Path :=
  (if path.isAbsolute then path else working.join path).sequence.foldl foldPiece ⟨[.empty]⟩

/-! ## Folding -/

end Path

/-! ## What is shown of a path -/

namespace Location

/-- The location that is read where a location is shown. -/
def reread (location : Location) : Location :=
  ⟨location.names.map FileName.reread⟩

end Location

namespace Path

end Path

end ClassMove
