import ClassMove.Move.Base
import ClassMove.Proofs.Identity.Location

/-!
# The nearest base

A search for the base of a package tree goes up from the directory that holds the file, one
directory at a time, and looks at no more directories than it may.  It finds a directory
exactly if that one has the name of a marker, lies near enough, and no directory between it
and the file has such a name.  So a wider search finds the same directory again.

The file lies below the base that is found, so its location is never refused for lying outside.
-/

namespace ClassMove.Location

/-! ## Distances -/

/-- Is `base` the directory this many steps above the location? -/
def LiesAbove (base : Location) (distance : Nat) (location : Location) : Prop :=
  ∃ names : List FileName, names.length = distance ∧ location = base.descend names

theorem liesAbove_zero {base location : Location} :
    base.LiesAbove 0 location ↔ base = location := by
  constructor
  · rintro ⟨names, none, rfl⟩
    rw [List.length_eq_zero_iff.1 none, descend_nil]
  · rintro rfl
    exact ⟨[], rfl, base.descend_nil.symm⟩

theorem not_liesAbove_root {base : Location} {distance : Nat} :
    ¬ base.LiesAbove (distance + 1) root := by
  rintro ⟨names, long, same⟩
  have empty : [] = base.names ++ names := congrArg Location.names same
  rw [(List.append_eq_nil_iff.1 empty.symm).2] at long
  cases long

/-- The directories above an entry are the directory that holds it and those above that one. -/
theorem liesAbove_child {base parent : Location} {name : FileName} {distance : Nat} :
    base.LiesAbove (distance + 1) (parent.descend [name]) ↔ base.LiesAbove distance parent := by
  constructor
  · rintro ⟨names, long, same⟩
    rcases List.eq_nil_or_concat names with rfl | ⟨front, last, rfl⟩
    · cases long
    · rw [List.concat_eq_append, ← descend_descend] at same
      have parents := (List.append_inj' (congrArg Location.names same) rfl).1
      refine ⟨front, by simpa using long, ?_⟩
      rw [← Location.mk.injEq] at parents
      exact parents
  · rintro ⟨names, rfl, rfl⟩
    exact ⟨names ++ [name], by simp, descend_descend base names [name]⟩

/-! ## The search -/

/-- Is the last name of the location a marker?  The root has no name. -/
def HasMarker (markers : List Text) (location : Location) : Prop :=
  ∃ name, location.fileName? = some name ∧ ∃ marker ∈ markers, name.octets = Utf8.encode marker

theorem isMarked_iff {markers : List Text} {location : Location} :
    location.isMarked markers = true ↔ location.HasMarker markers := by
  rw [isMarked, HasMarker]
  cases location.fileName? with
  | none => simp
  | some name => simp [FileName.isAmong_iff]

theorem detectBase?_root (markers : List Text) (limit : Nat) :
    root.detectBase? markers limit = none := by
  simp [detectBase?, ancestors, root, shorterBeginnings]

theorem detectBase?_zero (markers : List Text) (location : Location) :
    location.detectBase? markers 0 = none := by
  simp [detectBase?]

/-- One step of the search looks at the directory that holds the entry. -/
theorem detectBase?_child (markers : List Text) (limit : Nat) (parent : Location)
    (name : FileName) :
    (parent.descend [name]).detectBase? markers (limit + 1) =
      if parent.isMarked markers then some parent else parent.detectBase? markers limit := by
  have above : (parent.descend [name]).ancestors = parent :: parent.ancestors :=
    (List.cons.inj (chain_descend parent name)).2
  rw [detectBase?, above, List.take_succ_cons, List.find?_cons, detectBase?]
  cases parent.isMarked markers with
  | true => rfl
  | false => rfl

/-- A directory with the name of a marker, not further above a location than `limit`, such that no
directory between the two has such a name. -/
def IsNearestMarked (markers : List Text) (limit : Nat) (location base : Location) : Prop :=
  ∃ distance, 1 ≤ distance ∧ distance ≤ limit ∧ base.LiesAbove distance location ∧
    base.HasMarker markers ∧
    ∀ (nearer : Nat) (other : Location), 1 ≤ nearer → nearer < distance →
      other.LiesAbove nearer location → ¬ other.HasMarker markers

theorem isNearestMarked_child_of_hasMarker {markers : List Text} {limit : Nat}
    {parent base : Location} {name : FileName} (marked : parent.HasMarker markers) :
    IsNearestMarked markers (limit + 1) (parent.descend [name]) base ↔ parent = base := by
  have next : parent.LiesAbove 1 (parent.descend [name]) :=
    liesAbove_child.2 (liesAbove_zero.2 rfl)
  constructor
  · rintro ⟨distance, positive, -, above, -, first⟩
    by_cases one : distance = 1
    · rw [one, liesAbove_child, liesAbove_zero] at above
      exact above.symm
    · exact absurd marked (first 1 parent (Nat.le_refl 1) (by omega) next)
  · rintro rfl
    refine ⟨1, Nat.le_refl 1, by omega, next, marked, ?_⟩
    intro nearer other positive less
    omega

theorem isNearestMarked_child_of_not_hasMarker {markers : List Text} {limit : Nat}
    {parent base : Location} {name : FileName} (unmarked : ¬ parent.HasMarker markers) :
    IsNearestMarked markers (limit + 1) (parent.descend [name]) base ↔
      IsNearestMarked markers limit parent base := by
  constructor
  · rintro ⟨distance, positive, near, above, marked, first⟩
    obtain ⟨below, rfl⟩ := Nat.exists_eq_add_of_le' positive
    rw [liesAbove_child] at above
    refine ⟨below, ?_, by omega, above, marked, ?_⟩
    · -- at distance zero from the parent there is only the parent, which has no marker's name
      by_contra none
      have zero : below = 0 := by omega
      rw [zero, liesAbove_zero] at above
      exact unmarked (above ▸ marked)
    · intro nearer other once less higher
      exact first (nearer + 1) other (by omega) (by omega) (liesAbove_child.2 higher)
  · rintro ⟨distance, positive, near, above, marked, first⟩
    refine ⟨distance + 1, by omega, by omega, liesAbove_child.2 above, marked, ?_⟩
    intro nearer other once less higher
    obtain ⟨below, rfl⟩ := Nat.exists_eq_add_of_le' once
    rw [liesAbove_child] at higher
    by_cases zero : below = 0
    · rw [zero, liesAbove_zero] at higher
      exact higher ▸ unmarked
    · exact first below other (by omega) (by omega) higher

/-- The search finds the nearest directory that has a marker's name, and nothing else. -/
theorem detectBase?_eq_some_iff {markers : List Text} {limit : Nat} {location base : Location} :
    location.detectBase? markers limit = some base ↔
      IsNearestMarked markers limit location base := by
  induction location using parent_induction generalizing limit with
  | root =>
    rw [detectBase?_root]
    constructor
    · intro found
      cases found
    · rintro ⟨distance, positive, -, above, -, -⟩
      obtain ⟨below, rfl⟩ := Nat.exists_eq_add_of_le' positive
      exact absurd above not_liesAbove_root
  | child parent name ih =>
    cases limit with
    | zero =>
      rw [detectBase?_zero]
      constructor
      · intro found
        cases found
      · rintro ⟨distance, positive, near, -, -, -⟩
        omega
    | succ limit =>
      rw [detectBase?_child]
      split
      · next marked =>
        rw [isNearestMarked_child_of_hasMarker (isMarked_iff.1 marked), Option.some.injEq]
      · next unmarked =>
        rw [ih, isNearestMarked_child_of_not_hasMarker (mt isMarked_iff.2 unmarked)]

theorem IsNearestMarked.mono {markers : List Text} {limit larger : Nat} {location base : Location}
    (nearest : IsNearestMarked markers limit location base) (wider : limit ≤ larger) :
    IsNearestMarked markers larger location base := by
  rcases nearest with ⟨distance, positive, near, rest⟩
  exact ⟨distance, positive, Nat.le_trans near wider, rest⟩

theorem IsNearestMarked.isPrefix {markers : List Text} {limit : Nat} {location base : Location}
    (nearest : IsNearestMarked markers limit location base) : base.names <+: location.names := by
  rcases nearest with ⟨-, -, -, ⟨names, -, rfl⟩, -, -⟩
  exact ⟨names, rfl⟩

end ClassMove.Location

namespace ClassMove

/-- The base that is found above a path, seen from the directory `current`, is the nearest directory
with a marker's name, among those that are near enough.  A wider search finds it too, and the
location of the path is not refused for lying outside of it. -/
theorem detected_base_is_nearest (current : Location) (source : Path) (markers : List Text)
    (limit : Nat) (base : Location) :
    ((Location.ofPath current source).detectBase? markers limit = some base ↔
      Location.IsNearestMarked markers limit (.ofPath current source) base) ∧
    ((Location.ofPath current source).detectBase? markers limit = some base →
      (∀ larger, limit ≤ larger →
        (Location.ofPath current source).detectBase? markers larger = some base) ∧
      ∀ failure,
        Identity.ofLocation (.ofPath current base.toPath) (.ofPath current source) =
          .error failure →
        Identity.outsideHint (.ofPath current base.toPath) ∉ failure.hints) := by
  refine ⟨Location.detectBase?_eq_some_iff, ?_⟩
  intro found
  have nearest := Location.detectBase?_eq_some_iff.1 found
  constructor
  · intro larger wider
    exact Location.detectBase?_eq_some_iff.2 (nearest.mono wider)
  · intro failure failed
    rw [Location.ofPath_toPath] at failed
    rw [Identity.hints_of_ofLocation nearest.isPrefix failed]
    exact List.not_mem_nil

/-- Of two nested directories with the name of a marker the inner one is found, at the edge of the
search and by a wider one, although the file is spelled with a way up. -/
theorem detected_base_is_nearest_nested :
    (Location.ofPath .root (.ofString "/v/java/java/y/z/../Y.java")).detectBase?
      ["java".toList] 2 = some (.ofPath .root (.ofString "/v/java/java")) ∧
    (Location.ofPath .root (.ofString "/v/java/java/y/z/../Y.java")).detectBase?
      ["java".toList] 16 = some (.ofPath .root (.ofString "/v/java/java")) ∧
    (Location.ofPath .root (.ofString "/v/java/java/y/z/../Y.java")).detectBase?
      ["java".toList] 1 = none := by
  have found : (Location.ofPath .root (.ofString "/v/java/java/y/z/../Y.java")).detectBase?
      ["java".toList] 2 = some (.ofPath .root (.ofString "/v/java/java")) := by decide +kernel
  have wider := ((detected_base_is_nearest _ _ _ _ _).2 found).1 16 (by decide)
  exact ⟨found, wider, by decide +kernel⟩

end ClassMove
