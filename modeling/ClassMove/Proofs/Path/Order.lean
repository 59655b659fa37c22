import ClassMove.Proofs.Path.Join
import Mathlib.Data.List.Lex

/-!
# Paths in order

Paths are compared component by component, and names octet by octet, as they are listed.

A path below another one has the components of the other one and the names that lead
down, however the other one is spelled.
-/

namespace ClassMove

/-! ## Components in order -/

namespace Piece

/-- The kind of a component: the root, a dot at the start, going up, or a name. -/
def rank : Piece → Nat
  | .empty => 0
  | .here => 1
  | .up => 2
  | .down _ => 3

/-- Components are in the order of their kinds, and names in the order of their octets. -/
def ComesBefore : Piece → Piece → Prop
  | .down name, .down other => name.octets < other.octets
  | piece, other => piece.rank < other.rank

theorem comesBefore_irrefl (piece : Piece) : ¬ piece.ComesBefore piece := by
  cases piece with
  | down name => exact List.lt_irrefl _
  | _ => exact Nat.lt_irrefl _

theorem comesBefore_down {name other : FileName} (before : name.before other = true) :
    (Piece.down name).ComesBefore (.down other) := by
  rw [FileName.before, decide_eq_true_eq] at before
  exact before

end Piece

namespace Path

/-- The components of a path, one after another.  The root is written as an empty piece. -/
def sequence (path : Path) : List Piece :=
  match path.components with
  | (.root, pieces) => .empty :: pieces
  | (.dot, pieces) => .here :: pieces
  | (.none, pieces) => pieces

/-- Paths in the order of the first component that differs. -/
def ComesBefore (first second : Path) : Prop :=
  List.Lex Piece.ComesBefore first.sequence second.sequence

theorem comesBefore_irrefl (path : Path) : ¬ path.ComesBefore path :=
  List.lex_irrefl Piece.comesBefore_irrefl path.sequence

/-! ## Going down -/

/-- What stands at the start of a path stays there when more is put behind it. -/
theorem anchored_append {pieces : List Piece} (spelled : Path.isEmpty ⟨pieces⟩ = false)
    (more : List Piece) :
    Path.anchored ⟨pieces ++ more⟩ =
      ((Path.anchored ⟨pieces⟩).1, (Path.anchored ⟨pieces⟩).2 ++ more) := by
  rcases isEmpty_eq_false_iff.1 spelled with ⟨nonempty, noBlank⟩
  cases pieces with
  | nil => exact absurd rfl nonempty
  | cons first rest =>
    cases first with
    | empty =>
      cases rest with
      | nil => exact absurd rfl noBlank
      | cons next rest => rfl
    | here => rfl
    | up => rfl
    | down name => rfl

theorem components_append {pieces : List Piece} (spelled : Path.isEmpty ⟨pieces⟩ = false)
    (more : List Piece) :
    Path.components ⟨pieces ++ more⟩ =
      ((Path.components ⟨pieces⟩).1,
        (Path.components ⟨pieces⟩).2 ++ more.filter (!·.stays)) := by
  simp only [components, anchored_append spelled, List.filter_append]

theorem components_child (path : Path) (name : FileName) :
    (path.child name).components = (path.components.1, path.components.2 ++ [.down name]) := by
  have relative : Path.isAbsolute ⟨[.down name]⟩ = false := rfl
  rw [child]
  rcases path.join_cases relative with ⟨empty, below⟩ | ⟨front, nonempty, rfl, below⟩ |
    ⟨spelled, below⟩
  · rw [below]
    rcases isEmpty_iff.1 empty with rfl | rfl
    · rfl
    · rfl
  · rw [below]
    by_cases root : front = [.empty]
    · rw [root]
      rfl
    · have spelled : Path.isEmpty ⟨front⟩ = false := isEmpty_eq_false_iff.2 ⟨nonempty, root⟩
      rw [components_append spelled, components_append spelled]
      simp [Piece.stays]
  · rw [below, components_append spelled]
    rfl

theorem sequence_child (path : Path) (name : FileName) :
    (path.child name).sequence = path.sequence ++ [.down name] := by
  rw [sequence, components_child, sequence]
  rcases path.components with ⟨anchor, pieces⟩
  cases anchor with
  | root => rfl
  | dot => rfl
  | none => rfl

/-- The names that lead down come behind the components of the path. -/
theorem sequence_descend (path : Path) (names : List FileName) :
    (path.descend names).sequence = path.sequence ++ names.map .down := by
  induction names generalizing path with
  | nil => simp [descend]
  | cons name names ih =>
    rw [descend, List.foldl_cons, ← descend, ih, sequence_child, List.append_assoc]
    rfl

/-- Paths below one path are in the order of the names that lead down to them. -/
theorem comesBefore_descend (path : Path) {first second : List FileName}
    (before : List.Lex (fun name other => name.before other = true) first second) :
    (path.descend first).ComesBefore (path.descend second) := by
  rw [ComesBefore, sequence_descend, sequence_descend]
  apply List.Lex.append_left
  induction before with
  | nil => exact .nil
  | cons later ih => exact .cons ih
  | rel less => exact .rel (Piece.comesBefore_down less)

end Path

end ClassMove
