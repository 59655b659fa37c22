import ClassMove.Proofs.Files.Entry
import ClassMove.Proofs.Text

/-!
# Following plain spellings

The plain spelling of a location leads to the location, if it leads anywhere: what is
read or looked up by that spelling is what stands at the location.
-/

namespace ClassMove

/-! ## Spellings that are accepted -/

namespace Location

theorem octets_toPath {location : Location} (nonempty : location.names ≠ []) :
    location.toPath.octets = location.names.flatMap fun name => slash :: name.octets := by
  rw [Path.octets, toPath_pieces nonempty, List.map_cons, Text.join_cons_eq_flatMap, List.map_map,
    List.flatMap_map]
  rfl

/-- The spelling of a directory is the start of the spellings of what lies in it. -/
theorem octets_toPath_isPrefix (location : Location) (names : List FileName) :
    location.toPath.octets <+: (location.descend names).toPath.octets := by
  by_cases below : names = []
  · simp [below, descend_nil]
  · have nonempty : (location.descend names).names ≠ [] := by simp [descend, below]
    rw [octets_toPath nonempty]
    by_cases root : location.names = []
    · rcases location with ⟨above⟩
      cases root
      cases names with
      | nil => exact absurd rfl below
      | cons name names => exact ⟨_, rfl⟩
    · rw [octets_toPath root]
      simp [descend]

end Location

namespace FileSystem

theorem accept_toPath_eq_ok_iff {location : Location} :
    accept location.toPath = .ok () ↔
      location.toPath.holdsNul = false ∧ location.toPath.isTooLong = false := by
  simp only [accept, location.toPath_ne_empty]
  cases location.toPath.holdsNul with
  | true => simp
  | false =>
    cases location.toPath.isTooLong with
    | true => simp
    | false => simp

/-- Where the spelling of an entry is accepted, so is that of each directory above it. -/
theorem accept_toPath_of_descend {location : Location} {names : List FileName}
    (accepted : accept (location.descend names).toPath = .ok ()) :
    accept location.toPath = .ok () := by
  rw [accept_toPath_eq_ok_iff] at accepted ⊢
  rcases location.octets_toPath_isPrefix names with ⟨rest, spelled⟩
  rcases accepted with ⟨noNul, short⟩
  simp only [Path.holdsNul, Path.isTooLong, ← spelled, List.length_append, List.contains_eq_mem,
    List.mem_append, decide_eq_false_iff_not, not_or, Nat.not_lt] at noNul short ⊢
  exact ⟨noNul.1, Nat.le_trans (Nat.le_add_right ..) short⟩

/-! ## Following names -/

theorem enter_down {entries : Entries} {name : FileName} {child : Node}
    (listed : Entries.lookup name entries = some child) (passed : List (FileName × Node)) :
    Cursor.enter ⟨.dir entries, passed⟩ (.down name) =
      .ok ⟨child, (name, .dir entries) :: passed⟩ := by
  simp [Cursor.enter, Cursor.down?, Node.child?, Node.isFile, listed]

theorem foldlM_enter_down {cursor last : Cursor} {names : List FileName}
    (followed : (names.map Piece.down).foldlM Cursor.enter cursor = .ok last) :
    last.names = cursor.names ++ names ∧ cursor.node.get? names = some last.node := by
  induction names generalizing cursor with
  | nil =>
    cases Except.ok.inj followed
    simp
  | cons name names ih =>
    rw [List.map_cons, List.foldlM_cons] at followed
    rcases cursor with ⟨node, passed⟩
    cases node with
    | file octets => cases followed
    | dir entries =>
      cases listed : Entries.lookup name entries with
      | none => simp [Cursor.enter, Cursor.down?, Node.child?, Node.isFile, listed, bind,
          Except.bind] at followed
      | some child =>
        rw [enter_down listed] at followed
        rcases ih followed with ⟨names', found⟩
        refine ⟨?_, ?_⟩
        · rw [names']
          simp [Cursor.names]
        · simpa [Node.get?, listed] using found

theorem exists_foldlM_enter_down {cursor : Cursor} {names : List FileName} {node : Node}
    (found : cursor.node.get? names = some node) :
    ∃ last, (names.map Piece.down).foldlM Cursor.enter cursor = .ok last ∧ last.node = node := by
  induction names generalizing cursor with
  | nil =>
    refine ⟨cursor, rfl, ?_⟩
    simpa using found
  | cons name names ih =>
    rcases cursor with ⟨tree, passed⟩
    cases tree with
    | file octets => cases found
    | dir entries =>
      rcases Option.bind_eq_some_iff.1 found with ⟨child, listed, below⟩
      have inner : Cursor.node ⟨child, (name, .dir entries) :: passed⟩ = child := rfl
      rw [← inner] at below
      rcases ih below with ⟨last, followed, same⟩
      refine ⟨last, ?_, same⟩
      rw [List.map_cons, List.foldlM_cons, enter_down listed]
      exact followed

/-- The first piece of a plain spelling takes a directory at the root. -/
theorem foldlM_enter_toPath (tree : Node) (location : Location) :
    location.toPath.pieces.foldlM Cursor.enter ⟨tree, []⟩ =
      if tree.isFile then .error .notDirectory
      else (location.names.map Piece.down).foldlM Cursor.enter ⟨tree, []⟩ := by
  rcases location with ⟨names⟩
  cases tree with
  | file octets =>
    cases names with
    | nil => rfl
    | cons name names => rfl
  | dir entries =>
    cases names with
    | nil => rfl
    | cons name names => rfl

theorem locate_toPath (files : FileSystem) (location : Location) :
    files.locate location.toPath = (accept location.toPath).bind fun _ =>
      if files.tree.isFile then .error .notDirectory
      else (location.names.map Piece.down).foldlM Cursor.enter ⟨files.tree, []⟩ := by
  rw [locate, follow, start, location.toPath_isAbsolute, ← foldlM_enter_toPath]
  rfl

/-- A plain spelling leads to its location or nowhere. -/
theorem locate_toPath_eq_ok {files : FileSystem} {location : Location} {cursor : Cursor}
    (located : files.locate location.toPath = .ok cursor) :
    accept location.toPath = .ok () ∧ files.entryAt? .root = some .dir ∧
      cursor.location = location ∧ files.find? location = some cursor.node := by
  rw [locate_toPath] at located
  cases accepted : accept location.toPath with
  | error refusal =>
    rw [accepted] at located
    cases located
  | ok _ =>
    rw [accepted] at located
    cases tree : files.tree with
    | file octets =>
      rw [tree] at located
      cases located
    | dir entries =>
      rw [tree] at located
      rcases foldlM_enter_down located with ⟨names, found⟩
      refine ⟨rfl, ?_, ?_, ?_⟩
      · rw [entryAt?, tree]
        rfl
      · rw [Cursor.location, names]
        rfl
      · rw [find?, tree]
        exact found

theorem exists_locate_toPath {files : FileSystem} {location : Location} {node : Node}
    (accepted : accept location.toPath = .ok ()) (rooted : files.entryAt? .root = some .dir)
    (found : files.find? location = some node) :
    ∃ cursor, files.locate location.toPath = .ok cursor ∧ cursor.node = node := by
  have isDir : files.tree.isFile = false := by
    cases tree : files.tree with
    | file octets =>
      rw [entryAt?, tree] at rooted
      cases rooted
    | dir entries => rfl
  have start : Cursor.node ⟨files.tree, []⟩ = files.tree := rfl
  rw [find?, ← start] at found
  rcases exists_foldlM_enter_down found with ⟨cursor, followed, same⟩
  refine ⟨cursor, ?_, same⟩
  rw [locate_toPath, accepted, isDir]
  exact followed

theorem stat_toPath_eq_ok_iff {files : FileSystem} (rooted : files.entryAt? .root = some .dir)
    {location : Location} {node : Node} :
    files.stat location.toPath = .ok node ↔
      accept location.toPath = .ok () ∧ files.find? location = some node := by
  constructor
  · intro stat
    rw [FileSystem.stat] at stat
    cases located : files.locate location.toPath with
    | error refusal =>
      rw [located] at stat
      cases stat
    | ok cursor =>
      rw [located] at stat
      cases Except.ok.inj stat
      rcases locate_toPath_eq_ok located with ⟨accepted, -, -, found⟩
      exact ⟨accepted, found⟩
  · rintro ⟨accepted, found⟩
    rcases exists_locate_toPath accepted rooted found with ⟨cursor, located, rfl⟩
    rw [FileSystem.stat, located]
    rfl

/-! ## Reading and overwriting -/

theorem read_eq_ok {files : FileSystem} {path : Path} {octets : List UInt8}
    (read : files.read path = .ok octets) :
    ∃ cursor, files.locate path = .ok cursor ∧ cursor.node = .file octets := by
  rw [FileSystem.read, FileSystem.stat] at read
  cases located : files.locate path with
  | error refusal =>
    rw [located] at read
    cases read
  | ok cursor =>
    refine ⟨cursor, rfl, ?_⟩
    rw [located] at read
    simp only [Except.map] at read
    split at read
    · cases read
    · cases read
    · next same =>
      cases Except.ok.inj read
      exact Except.ok.inj same

/-- What is read by a plain spelling is what stands at the location. -/
theorem read_toPath_eq_ok_iff {files : FileSystem} {location : Location} {octets : List UInt8} :
    files.read location.toPath = .ok octets ↔
      accept location.toPath = .ok () ∧ files.entryAt? .root = some .dir ∧
        files.entryAt? location = some (.file octets) := by
  constructor
  · intro read
    rcases read_eq_ok read with ⟨cursor, located, node⟩
    rcases locate_toPath_eq_ok located with ⟨accepted, rooted, -, found⟩
    refine ⟨accepted, rooted, ?_⟩
    rw [entryAt?_eq_file_iff, found, node]
  · rintro ⟨accepted, rooted, there⟩
    rw [FileSystem.read,
      (stat_toPath_eq_ok_iff rooted).2 ⟨accepted, entryAt?_eq_file_iff.1 there⟩]

theorem isDir_toPath {files : FileSystem} {location : Location}
    (rooted : files.entryAt? .root = some .dir) (accepted : accept location.toPath = .ok ())
    (there : files.entryAt? location = some .dir) : files.isDir location.toPath = true := by
  rcases entryAt?_eq_dir_iff.1 there with ⟨entries, found⟩
  rw [FileSystem.isDir, (stat_toPath_eq_ok_iff rooted).2 ⟨accepted, found⟩]
  rfl

/-- A plain spelling that leads to a directory is accepted, and the directory stands there. -/
theorem of_isDir_toPath {files : FileSystem} {location : Location}
    (isDir : files.isDir location.toPath = true) :
    accept location.toPath = .ok () ∧ files.entryAt? .root = some .dir ∧
      files.entryAt? location = some .dir := by
  rw [FileSystem.isDir, FileSystem.stat] at isDir
  cases located : files.locate location.toPath with
  | error refusal =>
    rw [located] at isDir
    cases isDir
  | ok cursor =>
    rw [located] at isDir
    rcases locate_toPath_eq_ok located with ⟨accepted, rooted, -, found⟩
    refine ⟨accepted, rooted, entryAt?_eq_dir_iff.2 ?_⟩
    cases node : cursor.node with
    | file octets => simp [Except.map, Node.isDir, node] at isDir
    | dir entries => exact ⟨entries, node ▸ found⟩

theorem reach?_eq_some_iff {files : FileSystem} {location : Location} {node : Node} :
    files.reach? location = some node ↔
      accept location.toPath = .ok () ∧ files.find? location = some node := by
  rw [reach?]
  cases accept location.toPath with
  | error refusal => simp
  | ok _ => simp

/-- Nothing is found by a plain spelling that is not reached. -/
theorem pathExists_toPath_eq_false {files : FileSystem} {location : Location}
    (missing : files.reach? location = none) : files.pathExists location.toPath = false := by
  rw [pathExists, FileSystem.stat]
  cases located : files.locate location.toPath with
  | error refusal => rfl
  | ok cursor =>
    rcases locate_toPath_eq_ok located with ⟨accepted, -, -, found⟩
    rw [reach?_eq_some_iff.2 ⟨accepted, found⟩] at missing
    cases missing

end FileSystem

end ClassMove
