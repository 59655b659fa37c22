import ClassMove.Files.Node
import ClassMove.Files.OsError
import ClassMove.Path.Location

/-!
# Places in a tree

A cursor is a place in a tree together with the directories that were passed on
the way there.  It goes down into an entry of the directory where it is, and back
up into the directory it came from, without looking at the rest of the tree.

A cursor that is put at the root of a tree and then follows pieces stays in that
tree: its node is the one that its location leads to.
-/

namespace ClassMove

/-- A node, and the directories passed on the way to it, nearest first, each with the name that
was followed in it. -/
structure Cursor where
  node : Node
  passed : List (FileName × Node) := []

namespace Cursor

/-- The names that lead to a cursor. -/
def names (cursor : Cursor) : List FileName :=
  (cursor.passed.map Prod.fst).reverse

/-- The location of a cursor. -/
def location (cursor : Cursor) : Location :=
  ⟨cursor.names⟩

/-- Go down into an entry. -/
def down? (cursor : Cursor) (name : FileName) : Option Cursor :=
  (cursor.node.child? name).map fun node => ⟨node, (name, cursor.node) :: cursor.passed⟩

/-- Go down through entries. -/
def descend? (cursor : Cursor) (names : List FileName) : Option Cursor :=
  names.foldlM down? cursor

/-- Go back up.  The root is above itself. -/
def up (cursor : Cursor) : Cursor :=
  match cursor.passed with
  | [] => cursor
  | (_, dir) :: passed => ⟨dir, passed⟩

/-- The refusal to find a name that is not listed. -/
def missing (name : FileName) : OsError :=
  if name.isTooLong then .nameTooLong else .notFound

/-- Follow one piece, which takes a directory to start from. -/
def enter (cursor : Cursor) (piece : Piece) : Except OsError Cursor :=
  if cursor.node.isFile then .error .notDirectory
  else
    match piece with
    | .empty | .here => .ok cursor
    | .up => .ok cursor.up
    | .down name =>
      match cursor.down? name with
      | some below => .ok below
      | none => .error (missing name)

/-! ## Staying in a tree -/

/-- Do the directories passed lead from the root of the tree to the node? -/
def Leads (tree : Node) : Node → List (FileName × Node) → Prop
  | node, [] => node = tree
  | node, (name, dir) :: passed => dir.child? name = some node ∧ Leads tree dir passed

/-- Is the cursor a place in the tree? -/
def Within (tree : Node) (cursor : Cursor) : Prop :=
  Leads tree cursor.node cursor.passed

theorem within_root (tree : Node) : Within tree ⟨tree, []⟩ :=
  rfl

theorem Within.up {tree : Node} {cursor : Cursor} (within : Within tree cursor) :
    Within tree cursor.up := by
  obtain ⟨node, passed⟩ := cursor
  cases passed with
  | nil => exact within
  | cons last passed => exact within.2

theorem Within.down {tree : Node} {cursor below : Cursor} {name : FileName}
    (within : Within tree cursor) (found : cursor.down? name = some below) :
    Within tree below := by
  simp only [down?, Option.map_eq_some_iff] at found
  obtain ⟨node, listed, rfl⟩ := found
  exact ⟨listed, within⟩

theorem Within.descend {tree : Node} {cursor below : Cursor} {names : List FileName}
    (within : Within tree cursor) (found : cursor.descend? names = some below) :
    Within tree below := by
  induction names generalizing cursor with
  | nil =>
    simp only [descend?, List.foldlM_nil, Option.pure_def, Option.some.injEq] at found
    exact found ▸ within
  | cons name names ih =>
    simp only [descend?, List.foldlM_cons, Option.bind_eq_bind, Option.bind_eq_some_iff] at found
    obtain ⟨next, first, rest⟩ := found
    exact ih (within.down first) rest

/-- Following a piece stays in the tree. -/
theorem Within.enter {tree : Node} {cursor next : Cursor} {piece : Piece}
    (within : Within tree cursor) (followed : cursor.enter piece = .ok next) :
    Within tree next := by
  simp only [Cursor.enter] at followed
  split at followed
  · exact absurd followed (by simp)
  · cases piece with
    | empty => exact Except.ok.inj followed ▸ within
    | here => exact Except.ok.inj followed ▸ within
    | up => exact Except.ok.inj followed ▸ within.up
    | down name =>
      cases found : cursor.down? name with
      | none => simp [found] at followed
      | some below =>
        simp only [found, Except.ok.injEq] at followed
        exact followed ▸ within.down found

/-- The node of a cursor is the one that its names lead to. -/
theorem Within.get? {tree : Node} {cursor : Cursor} (within : Within tree cursor) :
    tree.get? cursor.names = some cursor.node := by
  obtain ⟨node, passed⟩ := cursor
  simp only [Within] at within
  induction passed generalizing node with
  | nil => simpa [names] using within.symm
  | cons last passed ih =>
    obtain ⟨name, dir⟩ := last
    have above := ih dir within.2
    simp only [names, List.map_cons, List.reverse_cons] at above ⊢
    rw [Node.get?_append_singleton, above]
    exact within.1

end Cursor

end ClassMove
