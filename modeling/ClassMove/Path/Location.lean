import ClassMove.Path.Basic

/-!
# Locations

A location is a path with nothing left to fold: the names from the root down.
Every spelled path has a location, found without looking at any file: a relative
path starts at the current directory, a dot stays, and two dots go up, at the root
to the root itself.
-/

namespace ClassMove

/-- The names from the root down. -/
structure Location where
  names : List FileName
deriving DecidableEq

namespace Location

/-- The root directory. -/
def root : Location := ⟨[]⟩

/-- Go one piece further. -/
def follow (location : Location) : Piece → Location
  | .empty | .here => location
  | .up => ⟨location.names.dropLast⟩
  | .down name => ⟨location.names ++ [name]⟩

/-- The location of a path, seen from the directory `current`. -/
def ofPath (current : Location) (path : Path) : Location :=
  path.pieces.foldl follow (if path.isAbsolute then root else current)

/-- The plain spelling of a location. -/
def toPath : Location → Path
  | ⟨[]⟩ => ⟨[.empty, .empty]⟩
  | ⟨name :: names⟩ => ⟨.empty :: .down name :: names.map .down⟩

/-- The plain spelling, for messages. -/
def display (location : Location) : String :=
  location.toPath.display

theorem foldl_follow_down (location : Location) (names : List FileName) :
    (names.map Piece.down).foldl follow location = ⟨location.names ++ names⟩ := by
  induction names generalizing location with
  | nil => simp
  | cons name names ih => simp [follow, ih]

/-- The location of a plain spelling is the location that was spelled. -/
@[simp]
theorem ofPath_toPath (current location : Location) :
    ofPath current location.toPath = location := by
  obtain ⟨names⟩ := location
  cases names with
  | nil => rfl
  | cons name names =>
    simp only [toPath, ofPath, Path.isAbsolute, ↓reduceIte, List.foldl_cons, follow, root]
    rw [foldl_follow_down]
    simp

/-! ## Positions relative to each other -/

/-- The names that follow `base` in `names`. -/
def namesBelow? : (base names : List FileName) → Option (List FileName)
  | [], names => some names
  | _ :: _, [] => none
  | first :: base, name :: names => if first = name then namesBelow? base names else none

theorem namesBelow?_eq_some_iff {base names rest : List FileName} :
    namesBelow? base names = some rest ↔ names = base ++ rest := by
  induction base generalizing names with
  | nil => simp [namesBelow?]
  | cons first base ih =>
    cases names with
    | nil => simp [namesBelow?]
    | cons name names =>
      by_cases same : first = name
      · simp [namesBelow?, same, ih]
      · simp [namesBelow?, same, Ne.symm same]

/-- The names that lead from `base` down to the location, if it lies there. -/
def below? (base location : Location) : Option (List FileName) :=
  namesBelow? base.names location.names

/-- The location below `location` that goes down through `names`. -/
def descend (location : Location) (names : List FileName) : Location :=
  ⟨location.names ++ names⟩

/-- A path for messages: relative to `base` when it lies below, in full otherwise. -/
def displayBelow (base location : Location) : String :=
  match below? base location with
  | some names => (Path.mk (names.map .down)).display
  | none => location.display

/-- The last name. -/
def fileName? (location : Location) : Option FileName :=
  location.names.getLast?

/-- What follows the last dot of the last name. -/
def extension? (location : Location) : Option Text :=
  location.fileName?.bind FileName.extension?

/-- All shorter beginnings of a list, longest first. -/
def shorterBeginnings : List FileName → List (List FileName)
  | [] => []
  | name :: names => (shorterBeginnings names).map (name :: ·) ++ [[]]

/-- The directories that a location lies in, nearest first, the root last. -/
def ancestors (location : Location) : List Location :=
  (shorterBeginnings location.names).map Location.mk

end Location

/-- Show `path` relative to the directory `base`, both seen from the directory `current`. -/
def Path.displayRelative (current : Location) (path base : Path) : String :=
  (Location.ofPath current base).displayBelow (Location.ofPath current path)

end ClassMove
