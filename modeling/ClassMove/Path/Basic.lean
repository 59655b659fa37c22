import ClassMove.Path.FileName

/-!
# Spelled paths

A path is kept as it was spelled: the pieces between its slashes.  The operating
system follows the spelling piece by piece, and messages show it as a text.

Two readings of a spelling matter.  The *components* leave out empty pieces and
dots, except a dot that a relative path starts with; they decide which paths are
equal, what a path is the parent of, and how it ends.  `Path.join` puts one path
behind another.
-/

namespace ClassMove

/-- What stands between two slashes. -/
inductive Piece where
  /-- Nothing at all: before a leading slash, between two slashes, after a trailing one. -/
  | empty
  /-- A single dot: stay here. -/
  | here
  /-- Two dots: go up. -/
  | up
  /-- Go down into an entry. -/
  | down (name : FileName)
deriving DecidableEq

namespace Piece

/-- The spelling of a piece. -/
def octets : Piece → List UInt8
  | .empty => []
  | .here => [dot]
  | .up => [dot, dot]
  | .down name => name.octets

/-- Read one piece.  Octets with a slash are no piece, and count as an empty one. -/
def ofOctets (octets : List UInt8) : Piece :=
  if octets = [dot] then .here
  else if octets = [dot, dot] then .up
  else
    match FileName.ofOctets? octets with
    | some name => .down name
    | none => .empty

/-- Does the piece stay where it is? -/
def stays : Piece → Bool
  | .empty | .here => true
  | .up | .down _ => false

@[simp]
theorem ofOctets_octets (piece : Piece) : ofOctets piece.octets = piece := by
  cases piece with
  | empty => decide
  | here => decide
  | up => decide
  | down name =>
    have valid := name.valid
    simp only [isFileName, Bool.and_eq_true, bne_iff_ne, ne_eq] at valid
    simp [octets, ofOctets, valid]

theorem slash_notMem_octets (piece : Piece) : slash ∉ piece.octets := by
  cases piece with
  | empty => simp [octets]
  | here => decide
  | up => decide
  | down name => exact slash_notMem_of_isFileName name.valid

/-- Octets without a slash are the spelling of the piece they are read as. -/
theorem octets_ofOctets {octets : List UInt8} (free : slash ∉ octets) :
    (ofOctets octets).octets = octets := by
  simp only [ofOctets]
  split
  · next same => simp [Piece.octets, same]
  · split
    · next same => simp [Piece.octets, same]
    · by_cases valid : isFileName octets = true
      · simp [FileName.ofOctets?, valid, Piece.octets]
      · have blank : octets = [] := by
          simp only [isFileName, Bool.and_eq_true, bne_iff_ne, ne_eq, Bool.not_eq_true',
            not_and] at valid
          by_cases nonempty : octets = []
          · exact nonempty
          · simp_all
        subst blank
        rfl

theorem map_octets_ofOctets {spellings : List (List UInt8)}
    (free : ∀ octets ∈ spellings, slash ∉ octets) :
    (spellings.map ofOctets).map octets = spellings := by
  rw [List.map_map]
  conv => rhs; rw [← List.map_id spellings]
  apply List.map_congr_left
  intro octets member
  exact octets_ofOctets (free octets member)

end Piece

/-- A path, as the pieces between its slashes. -/
structure Path where
  pieces : List Piece
deriving DecidableEq

namespace Path

/-! ## Spelling -/

/-- The pieces of a spelling. -/
def ofOctets (octets : List UInt8) : Path :=
  ⟨(Text.split slash octets).map Piece.ofOctets⟩

/-- The spelling of a path. -/
def octets (path : Path) : List UInt8 :=
  Text.join slash (path.pieces.map Piece.octets)

/-- The path that a text spells. -/
def ofText (text : Text) : Path :=
  ofOctets (Utf8.encode text)

/-- The text that the spelling is shown as. -/
def text (path : Path) : Text :=
  Utf8.view path.octets

/-- A path from a string. -/
def ofString (spelling : String) : Path :=
  ofText spelling.toList

/-- The text of a path as a string, for messages. -/
def display (path : Path) : String :=
  path.text.asString

/-- A path has the spelling that it was read from. -/
@[simp]
theorem octets_ofOctets (octets : List UInt8) : (ofOctets octets).octets = octets := by
  have pieces : ((Text.split slash octets).map Piece.ofOctets).map Piece.octets =
      Text.split slash octets :=
    Piece.map_octets_ofOctets fun _ => Text.notMem_of_mem_split
  simp only [Path.octets, ofOctets, pieces, Text.join_split]

/-- A spelling with at least one piece is read back as the same path. -/
theorem ofOctets_octets {path : Path} (nonempty : path.pieces ≠ []) :
    ofOctets path.octets = path := by
  have free : ∀ piece ∈ path.pieces.map Piece.octets, slash ∉ piece := by
    intro piece member
    obtain ⟨source, _, rfl⟩ := List.mem_map.1 member
    exact source.slash_notMem_octets
  have back : (path.pieces.map Piece.octets).map Piece.ofOctets = path.pieces := by
    rw [List.map_map]
    conv => rhs; rw [← List.map_id path.pieces]
    apply List.map_congr_left
    intro piece _
    simp
  simp only [ofOctets, Path.octets]
  rw [Text.split_join (by simpa using nonempty) free, back]

/-- Is nothing spelled at all? -/
def isEmpty (path : Path) : Bool :=
  path.pieces == [] || path.pieces == [.empty]

/-- Does the spelling start with a slash? -/
def isAbsolute (path : Path) : Bool :=
  match path.pieces with
  | .empty :: _ :: _ => true
  | _ => false

/-- Does the spelling end with a slash? -/
def endsInSlash (path : Path) : Bool :=
  2 ≤ path.pieces.length && path.pieces.getLast? == some .empty

/-- The most octets that a spelling may have for an operating system to follow it. -/
def maxOctets : Nat := 4095

/-- Is the spelling too long to be followed? -/
def isTooLong (path : Path) : Bool :=
  decide (maxOctets < path.octets.length)

/-- Does the spelling hold a NUL?  An operating system takes a NUL for the end of a path. -/
def holdsNul (path : Path) : Bool :=
  path.octets.contains 0

/-- The path of the entry `rest` below `path`.  An absolute `rest` stands for itself. -/
def join (path rest : Path) : Path :=
  if rest.isAbsolute then rest
  else if path.isEmpty then rest
  else if path.endsInSlash then ⟨path.pieces.dropLast ++ rest.pieces⟩
  else ⟨path.pieces ++ rest.pieces⟩

/-- The path of one entry of the directory `path`. -/
def child (path : Path) (name : FileName) : Path :=
  path.join ⟨[.down name]⟩

/-- The path below `path` that goes down through `names`. -/
def descend (path : Path) (names : List FileName) : Path :=
  names.foldl child path

/-! ## Components -/

/-- What a path starts from. -/
inductive Anchor where
  /-- The root directory. -/
  | root
  /-- The current directory, written as a dot. -/
  | dot
  /-- The current directory, not written. -/
  | none
deriving DecidableEq

/-- The start of a path and the pieces that follow it. -/
def anchored (path : Path) : Anchor × List Piece :=
  match path.pieces with
  | .empty :: next :: rest => (.root, next :: rest)
  | .here :: rest => (.dot, rest)
  | pieces => (.none, pieces)

/-- The path with a given start. -/
def ofAnchored : Anchor → List Piece → Path
  | .root, [] => ⟨[.empty, .empty]⟩
  | .root, pieces => ⟨.empty :: pieces⟩
  | .dot, pieces => ⟨.here :: pieces⟩
  | .none, [] => ⟨[.empty]⟩
  | .none, pieces => ⟨pieces⟩

/-- The start of a path and the pieces that lead somewhere else.  Paths with the same components
are the same path, spelled differently. -/
def components (path : Path) : Anchor × List Piece :=
  (path.anchored.1, path.anchored.2.filter (!·.stays))

/-- Do two spellings have the same components? -/
def sameAs (first second : Path) : Bool :=
  first.components == second.components

/-- Pieces without those at the end that stay. -/
def trimEnd (pieces : List Piece) : List Piece :=
  (pieces.reverse.dropWhile Piece.stays).reverse

/-- The path without its last component.  The root and the empty path have none. -/
def parent? (path : Path) : Option Path :=
  let (anchor, pieces) := path.anchored
  match trimEnd pieces, anchor with
  | [], .dot => some (ofAnchored .none [])
  | [], _ => none
  | body, anchor => some (ofAnchored anchor (trimEnd body.dropLast))

/-- The name that the path ends in. -/
def fileName? (path : Path) : Option FileName :=
  match (trimEnd path.anchored.2).getLast? with
  | some (.down name) => some name
  | _ => none

/-- The first `count` proper ancestors of a path, nearest first. -/
def ancestorsWithin : Nat → Path → List Path
  | 0, _ => []
  | count + 1, path =>
    match path.parent? with
    | some parent => parent :: ancestorsWithin count parent
    | none => []

/-- The path itself, its parent, the parent of that, and so on. -/
def ancestors (path : Path) : List Path :=
  path :: ancestorsWithin (path.pieces.length + 1) path

end Path

end ClassMove
