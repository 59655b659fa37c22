import ClassMove.Dialect
import Mathlib.Data.List.Induction

/-!
# Plain spellings

The plain spelling of a location is a slash and its names.  Joining, going up,
comparing and reading the last name of plain spellings are what they are for the
locations, so a program that only spells locations plainly may be read as a program
about locations.
-/

namespace ClassMove

namespace Location

/-! ## Going down -/

theorem descend_nil (location : Location) : location.descend [] = location := by
  simp [descend]

theorem descend_descend (location : Location) (first second : List FileName) :
    (location.descend first).descend second = location.descend (first ++ second) := by
  simp [descend]

theorem descend_injective (location : Location) {first second : List FileName}
    (same : location.descend first = location.descend second) : first = second := by
  simpa [descend] using same

theorem below?_eq_some_iff {base location : Location} {names : List FileName} :
    base.below? location = some names ↔ location = base.descend names := by
  rcases location with ⟨all⟩
  simp [below?, namesBelow?_eq_some_iff, descend]

theorem below?_eq_none_iff {base location : Location} :
    base.below? location = none ↔ ¬ base.names <+: location.names := by
  rcases location with ⟨all⟩
  constructor
  · rintro missing ⟨names, rfl⟩
    have found : base.below? (base.descend names) = some names := below?_eq_some_iff.2 rfl
    rw [descend, missing] at found
    cases found
  · intro outside
    cases found : base.below? ⟨all⟩ with
    | none => rfl
    | some names =>
      refine absurd ⟨names, ?_⟩ outside
      rw [below?_eq_some_iff.1 found, descend]

/-- Every location but the root lies in a directory. -/
theorem exists_parent {location : Location} (nonempty : location.names ≠ []) :
    ∃ parent name, location = descend parent [name] := by
  refine ⟨⟨location.names.dropLast⟩, location.names.getLast nonempty, ?_⟩
  simp only [descend, List.dropLast_concat_getLast]

/-- An induction that goes from a directory to its entries. -/
theorem parent_induction {motive : Location → Prop} (root : motive root)
    (child : ∀ parent name, motive parent → motive (parent.descend [name]))
    (location : Location) : motive location := by
  rcases location with ⟨names⟩
  induction names using List.reverseRecOn with
  | nil => exact root
  | append_singleton names name ih => exact child ⟨names⟩ name ih

/-! ## Spelling -/

theorem toPath_ne_empty (location : Location) : location.toPath.isEmpty = false := by
  rcases location with ⟨names⟩
  cases names with
  | nil => rfl
  | cons name names => rfl

theorem toPath_isAbsolute (location : Location) : location.toPath.isAbsolute = true := by
  rcases location with ⟨names⟩
  cases names with
  | nil => rfl
  | cons name names => rfl

theorem toPath_pieces {location : Location} (nonempty : location.names ≠ []) :
    location.toPath.pieces = .empty :: location.names.map .down := by
  rcases location with ⟨names⟩
  cases names with
  | nil => exact absurd rfl nonempty
  | cons name names => rfl

theorem toPath_endsInSlash {location : Location} (nonempty : location.names ≠ []) :
    location.toPath.endsInSlash = false := by
  have last : location.toPath.pieces.getLast? = some (.down (location.names.getLast nonempty)) := by
    rw [toPath_pieces nonempty, List.getLast?_cons, List.getLast?_map,
      List.getLast?_eq_some_getLast nonempty]
    rfl
  simp [Path.endsInSlash, last]

/-- The path of names below a location, put behind the spelling of the location. -/
theorem toPath_join (location : Location) {names : List FileName} (nonempty : names ≠ []) :
    location.toPath.join ⟨names.map .down⟩ = (location.descend names).toPath := by
  rcases location with ⟨above⟩
  cases names with
  | nil => exact absurd rfl nonempty
  | cons name names =>
    cases above with
    | nil => rfl
    | cons first above =>
      rw [Path.join, toPath_endsInSlash (by simp), toPath_ne_empty]
      simp [Path.isAbsolute, toPath, descend]

theorem toPath_child (location : Location) (name : FileName) :
    location.toPath.child name = (location.descend [name]).toPath :=
  location.toPath_join (List.cons_ne_nil name [])

theorem toPath_descend (location : Location) (names : List FileName) :
    location.toPath.descend names = (location.descend names).toPath := by
  induction names generalizing location with
  | nil => rw [descend_nil]; rfl
  | cons name names ih =>
    rw [Path.descend, List.foldl_cons, toPath_child, ← Path.descend, ih, descend_descend]
    rfl

theorem toPath_injective {first second : Location} (same : first.toPath = second.toPath) :
    first = second := by
  have located := congrArg (ofPath root) same
  rwa [ofPath_toPath, ofPath_toPath] at located

/-! ## Going up -/

theorem toPath_anchored {location : Location} (nonempty : location.names ≠ []) :
    location.toPath.anchored = (.root, location.names.map .down) := by
  rcases location with ⟨names⟩
  cases names with
  | nil => exact absurd rfl nonempty
  | cons name names => rfl

theorem trimEnd_map_down (names : List FileName) :
    Path.trimEnd (names.map .down) = names.map .down := by
  have stop : (names.map Piece.down).reverse.dropWhile Piece.stays =
      (names.map Piece.down).reverse := by
    rw [← List.map_reverse]
    cases names.reverse with
    | nil => rfl
    | cons name names => rfl
  rw [Path.trimEnd, stop, List.reverse_reverse]

theorem ofAnchored_map_down (names : List FileName) :
    Path.ofAnchored .root (names.map .down) = toPath ⟨names⟩ := by
  cases names with
  | nil => rfl
  | cons name names => rfl

theorem toPath_parent? (parent : Location) (name : FileName) :
    (parent.descend [name]).toPath.parent? = some parent.toPath := by
  have nonempty : (parent.descend [name]).names ≠ [] := by simp [descend]
  have body : (parent.descend [name]).names.map Piece.down ≠ [] := by simpa using nonempty
  simp only [Path.parent?, toPath_anchored nonempty, trimEnd_map_down]
  split
  · next same _ => exact absurd same body
  · next same _ => exact absurd same body
  · rw [← List.map_dropLast, trimEnd_map_down, ofAnchored_map_down]
    simp [descend]

theorem toPath_fileName? (location : Location) :
    location.toPath.fileName? = location.fileName? := by
  by_cases nonempty : location.names = []
  · rcases location with ⟨names⟩
    cases nonempty
    rfl
  · rw [Path.fileName?, toPath_anchored nonempty, trimEnd_map_down, List.getLast?_map, fileName?]
    cases location.names.getLast? with
    | none => rfl
    | some name => rfl

theorem ofPath?_toPath (location : Location) :
    Dialect.ofPath? location.toPath = Dialect.ofLocation? location := by
  rw [Dialect.ofPath?, toPath_fileName?, Dialect.ofLocation?]

/-- A location and the directories that it lies in, nearest first. -/
def chain (location : Location) : List Location :=
  location :: location.ancestors

theorem shorterBeginnings_concat (names : List FileName) (name : FileName) :
    shorterBeginnings (names ++ [name]) = names :: shorterBeginnings names := by
  induction names with
  | nil => rfl
  | cons first names ih => simp [shorterBeginnings, ih]

theorem chain_descend (parent : Location) (name : FileName) :
    (parent.descend [name]).chain = parent.descend [name] :: parent.chain := by
  simp [chain, ancestors, descend, shorterBeginnings_concat]

theorem toPath_ancestorsWithin (location : Location) {count : Nat}
    (enough : location.names.length ≤ count) :
    Path.ancestorsWithin count location.toPath = location.ancestors.map toPath := by
  induction location using parent_induction generalizing count with
  | root =>
    cases count with
    | zero => rfl
    | succ count => rfl
  | child parent name ih =>
    cases count with
    | zero => simp [descend] at enough
    | succ count =>
      have fewer : parent.names.length ≤ count := by simpa [descend] using enough
      have chained := chain_descend parent name
      simp only [chain, List.cons.injEq, true_and] at chained
      rw [Path.ancestorsWithin, toPath_parent?, chained]
      simp [ih fewer]

theorem toPath_ancestors (location : Location) :
    location.toPath.ancestors = location.chain.map toPath := by
  have enough : location.names.length ≤ location.toPath.pieces.length + 1 := by
    rcases location with ⟨names⟩
    cases names with
    | nil => simp
    | cons name names => simp [toPath]
  rw [Path.ancestors, toPath_ancestorsWithin location enough, chain, List.map_cons]

/-! ## Comparing -/

theorem toPath_components (location : Location) :
    location.toPath.components = (.root, location.names.map .down) := by
  by_cases nonempty : location.names = []
  · rcases location with ⟨names⟩
    cases nonempty
    rfl
  · have moving : (location.names.map Piece.down).filter (!·.stays) =
        location.names.map Piece.down := by
      rw [List.filter_eq_self]
      intro piece member
      rcases List.mem_map.1 member with ⟨name, -, rfl⟩
      rfl
    rw [Path.components, toPath_anchored nonempty, moving]

theorem toPath_sameAs {first second : Location} :
    first.toPath.sameAs second.toPath = true ↔ first = second := by
  rcases first with ⟨first⟩
  rcases second with ⟨second⟩
  simp [Path.sameAs, toPath_components, List.map_inj_right fun _ _ => Piece.down.inj]

end Location

end ClassMove
