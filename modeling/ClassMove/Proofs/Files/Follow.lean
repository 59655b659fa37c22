import ClassMove.Proofs.Files.Place

/-!
# Following any spelling

A path that leads somewhere leads to its location, however it is spelled: a piece that
is followed in the tree goes where it goes on paper.  So all spellings of a location
read the same file.  A tree that has lost nothing, and in which directories are still
directories, leads a path to the same location again.
-/

namespace ClassMove

/-! ## Where pieces lead -/

namespace Cursor

theorem location_up (cursor : Cursor) : cursor.up.location = cursor.location.follow .up := by
  rcases cursor with ⟨node, passed⟩
  cases passed with
  | nil => rfl
  | cons last passed => simp [up, location, names, Location.follow]

theorem location_of_down? {cursor below : Cursor} {name : FileName}
    (found : cursor.down? name = some below) :
    below.location = cursor.location.descend [name] := by
  rcases Option.map_eq_some_iff.1 found with ⟨node, -, rfl⟩
  simp [location, names, Location.descend]

theorem location_of_enter {cursor next : Cursor} {piece : Piece}
    (entered : cursor.enter piece = .ok next) :
    next.location = cursor.location.follow piece := by
  simp only [enter] at entered
  split at entered
  · cases entered
  · cases piece with
    | empty =>
      cases Except.ok.inj entered
      rfl
    | here =>
      cases Except.ok.inj entered
      rfl
    | up =>
      cases Except.ok.inj entered
      exact cursor.location_up
    | down name =>
      cases found : cursor.down? name with
      | none => simp [found] at entered
      | some below =>
        simp only [found, Except.ok.injEq] at entered
        subst entered
        exact location_of_down? found

theorem location_of_foldlM_enter {cursor last : Cursor} {pieces : List Piece}
    (followed : pieces.foldlM enter cursor = .ok last) :
    last.location = pieces.foldl Location.follow cursor.location := by
  induction pieces generalizing cursor with
  | nil =>
    cases Except.ok.inj followed
    rfl
  | cons piece pieces ih =>
    cases entered : cursor.enter piece with
    | error refusal => simp [List.foldlM_cons, entered, bind, Except.bind] at followed
    | ok next =>
      simp only [List.foldlM_cons, entered] at followed
      rw [List.foldl_cons, ← location_of_enter entered]
      exact ih followed

theorem location_of_descend? {cursor below : Cursor} {names : List FileName}
    (found : cursor.descend? names = some below) :
    below.location = cursor.location.descend names := by
  induction names generalizing cursor with
  | nil =>
    cases Option.some.inj found
    rw [Location.descend_nil]
  | cons name names ih =>
    rcases Option.bind_eq_some_iff.1 found with ⟨next, first, rest⟩
    rw [ih rest, location_of_down? first, Location.descend_descend]
    rfl

end Cursor

namespace FileSystem

/-! ## Where paths lead -/

theorem location_of_start {files : FileSystem} {path : Path} {cursor : Cursor}
    (started : files.start path = .ok cursor) :
    cursor.location = if path.isAbsolute then .root else files.current := by
  simp only [start] at started
  split at started
  · next absolute =>
    cases Except.ok.inj started
    rw [if_pos absolute]
    rfl
  · next relative =>
    rw [if_neg relative]
    split at started
    · next found =>
      cases Except.ok.inj started
      exact Cursor.location_of_descend? found
    · cases started

theorem location_of_follow {files : FileSystem} {path : Path} {pieces : List Piece}
    {cursor : Cursor} (followed : files.follow path pieces = .ok cursor) :
    cursor.location =
      pieces.foldl Location.follow (if path.isAbsolute then .root else files.current) := by
  simp only [follow] at followed
  cases accepted : accept path with
  | error refusal => simp [accepted, bind, Except.bind] at followed
  | ok _ =>
    cases started : files.start path with
    | error refusal => simp [accepted, started, bind, Except.bind] at followed
    | ok first =>
      simp only [accepted, started] at followed
      rw [Cursor.location_of_foldlM_enter followed, location_of_start started]

/-- A path that leads somewhere leads to its location. -/
theorem location_of_locate {files : FileSystem} {path : Path} {cursor : Cursor}
    (located : files.locate path = .ok cursor) : cursor.location = files.locationOf path :=
  location_of_follow located

/-- What is read by any spelling stands at its location. -/
theorem entryAt?_of_read {files : FileSystem} {path : Path} {octets : List UInt8}
    (read : files.read path = .ok octets) :
    files.entryAt? (files.locationOf path) = some (.file octets) := by
  rcases read_eq_ok read with ⟨cursor, located, node⟩
  rw [entryAt?_eq_file_iff, ← location_of_locate located, find?_of_locate located, node]

theorem overwrite_of_read {files : FileSystem} {path : Path} {octets : List UInt8}
    (read : files.read path = .ok octets) (fresh : List UInt8) :
    files.overwrite path fresh = files.writeAt (files.locationOf path) fresh := by
  rcases read_eq_ok read with ⟨cursor, located, -⟩
  rw [overwrite, located, ← location_of_locate located]

theorem entryAt?_of_within {files : FileSystem} {cursor : Cursor}
    (within : cursor.Within files.tree) :
    files.entryAt? cursor.location = some cursor.node.entry := by
  rw [entryAt?_eq_map_find?, find?, Cursor.location, within.get?]
  rfl

/-! ## Trees that have lost nothing -/

/-- Has `later` a directory wherever `files` has one, and something wherever `files` has
something? -/
structure Keeps (files later : FileSystem) : Prop where
  current : later.current = files.current
  dirs : ∀ location, files.entryAt? location = some .dir → later.entryAt? location = some .dir
  found : ∀ location, files.entryAt? location ≠ none → later.entryAt? location ≠ none

namespace Keeps

variable {files later : FileSystem} {cursor twin : Cursor}

theorem trans {last : FileSystem} (earlier : Keeps files later) (afterwards : Keeps later last) :
    Keeps files last where
  current := afterwards.current.trans earlier.current
  dirs location isDir := afterwards.dirs location (earlier.dirs location isDir)
  found location there := afterwards.found location (earlier.found location there)

/-- A file with other octets is still found. -/
theorem writeAt {location : Location} {octets : List UInt8}
    (held : files.entryAt? location = some (.file octets)) (fresh : List UInt8) :
    Keeps files (files.writeAt location fresh) := by
  refine ⟨rfl, ?_, ?_⟩
  · intro other isDir
    rw [entryAt?_writeAt held, if_neg, isDir]
    rintro rfl
    rw [held] at isDir
    cases isDir
  · intro other there
    rw [entryAt?_writeAt held]
    split
    · simp
    · exact there

theorem exists_down? (keeps : Keeps files later) (within : cursor.Within files.tree)
    (twinWithin : twin.Within later.tree) (same : twin.location = cursor.location)
    {name : FileName} {below : Cursor} (found : cursor.down? name = some below) :
    ∃ twinBelow, twin.down? name = some twinBelow := by
  have there : later.entryAt? (twin.location.descend [name]) ≠ none := by
    rw [same, ← Cursor.location_of_down? found]
    apply keeps.found
    rw [entryAt?_of_within (within.down found)]
    simp
  cases listed : twin.node.child? name with
  | some child => exact ⟨_, by rw [Cursor.down?, listed]; rfl⟩
  | none =>
    exfalso
    apply there
    rw [entryAt?_eq_none_iff, find?]
    show later.tree.get? (twin.names ++ [name]) = none
    rw [Node.get?_append_singleton, twinWithin.get?]
    exact listed

/-- What can be followed in a tree can be followed, from the same location, in a tree that has
lost nothing. -/
theorem exists_enter (keeps : Keeps files later) (within : cursor.Within files.tree)
    (twinWithin : twin.Within later.tree) (same : twin.location = cursor.location)
    {piece : Piece} {next : Cursor} (entered : cursor.enter piece = .ok next) :
    ∃ twinNext, twin.enter piece = .ok twinNext := by
  simp only [Cursor.enter] at entered ⊢
  split at entered
  · cases entered
  · next notFile =>
    have isDir : files.entryAt? cursor.location = some .dir := by
      rw [entryAt?_of_within within]
      cases node : cursor.node with
      | file octets =>
        rw [node] at notFile
        exact absurd rfl notFile
      | dir entries => rfl
    have twinDir : twin.node.isFile = false := by
      have kept := keeps.dirs _ isDir
      rw [← same, entryAt?_of_within twinWithin] at kept
      cases node : twin.node with
      | file octets =>
        rw [node] at kept
        cases kept
      | dir entries => rfl
    rw [twinDir]
    cases piece with
    | empty => exact ⟨twin, rfl⟩
    | here => exact ⟨twin, rfl⟩
    | up => exact ⟨twin.up, rfl⟩
    | down name =>
      cases found : cursor.down? name with
      | none => simp [found] at entered
      | some below =>
        rcases keeps.exists_down? within twinWithin same found with ⟨twinBelow, twinFound⟩
        exact ⟨twinBelow, by simp [twinFound]⟩

theorem exists_foldlM_enter (keeps : Keeps files later) (within : cursor.Within files.tree)
    (twinWithin : twin.Within later.tree) (same : twin.location = cursor.location)
    {pieces : List Piece} {last : Cursor}
    (followed : pieces.foldlM Cursor.enter cursor = .ok last) :
    ∃ twinLast, pieces.foldlM Cursor.enter twin = .ok twinLast := by
  induction pieces generalizing cursor twin with
  | nil => exact ⟨twin, rfl⟩
  | cons piece pieces ih =>
    cases entered : cursor.enter piece with
    | error refusal => simp [List.foldlM_cons, entered, bind, Except.bind] at followed
    | ok next =>
      simp only [List.foldlM_cons, entered] at followed
      rcases keeps.exists_enter within twinWithin same entered with ⟨twinNext, twinEntered⟩
      have sameNext : twinNext.location = next.location := by
        rw [Cursor.location_of_enter twinEntered, Cursor.location_of_enter entered, same]
      simp only [List.foldlM_cons, twinEntered]
      exact ih (within.enter entered) (twinWithin.enter twinEntered) sameNext followed

theorem exists_descend? (keeps : Keeps files later) (within : cursor.Within files.tree)
    (twinWithin : twin.Within later.tree) (same : twin.location = cursor.location)
    {names : List FileName} {below : Cursor} (found : cursor.descend? names = some below) :
    ∃ twinBelow, twin.descend? names = some twinBelow := by
  induction names generalizing cursor twin with
  | nil => exact ⟨twin, rfl⟩
  | cons name names ih =>
    rcases Option.bind_eq_some_iff.1 found with ⟨next, first, rest⟩
    rcases keeps.exists_down? within twinWithin same first with ⟨twinNext, twinFirst⟩
    have sameNext : twinNext.location = next.location := by
      rw [Cursor.location_of_down? twinFirst, Cursor.location_of_down? first, same]
    rcases ih (within.down first) (twinWithin.down twinFirst) sameNext rest with
      ⟨twinBelow, twinRest⟩
    exact ⟨twinBelow, Option.bind_eq_some_iff.2 ⟨twinNext, twinFirst, twinRest⟩⟩

theorem exists_start (keeps : Keeps files later) {path : Path}
    (started : files.start path = .ok cursor) :
    ∃ twin, later.start path = .ok twin ∧ twin.location = cursor.location := by
  simp only [start] at started ⊢
  split at started
  · next absolute =>
    cases Except.ok.inj started
    rw [if_pos absolute]
    exact ⟨_, rfl, rfl⟩
  · next relative =>
    rw [if_neg relative, keeps.current]
    split at started
    · next found =>
      cases Except.ok.inj started
      rcases keeps.exists_descend? (Cursor.within_root _) (Cursor.within_root _) rfl found with
        ⟨twin, twinFound⟩
      refine ⟨twin, by rw [twinFound], ?_⟩
      rw [Cursor.location_of_descend? twinFound, Cursor.location_of_descend? found]
      rfl
    · cases started

/-- A path that leads somewhere still does in a tree that has lost nothing. -/
theorem exists_locate (keeps : Keeps files later) {path : Path}
    (located : files.locate path = .ok cursor) : ∃ twin, later.locate path = .ok twin := by
  simp only [locate, follow] at located ⊢
  cases accepted : accept path with
  | error refusal => simp [accepted, bind, Except.bind] at located
  | ok _ =>
    cases started : files.start path with
    | error refusal => simp [accepted, started, bind, Except.bind] at located
    | ok first =>
      simp only [accepted, started] at located
      rcases keeps.exists_start started with ⟨twin, twinStarted, same⟩
      simp only [twinStarted]
      exact keeps.exists_foldlM_enter (within_of_start started) (within_of_start twinStarted) same
        located

/-- A file is read by its old spelling in a tree that has lost nothing. -/
theorem read (keeps : Keeps files later) {path : Path} {octets fresh : List UInt8}
    (read : files.read path = .ok octets)
    (there : later.entryAt? (files.locationOf path) = some (.file fresh)) :
    later.read path = .ok fresh := by
  rcases read_eq_ok read with ⟨cursor, located, -⟩
  rcases keeps.exists_locate located with ⟨twin, twinLocated⟩
  have node : twin.node = .file fresh := by
    have found := find?_of_locate twinLocated
    have same : later.locationOf path = files.locationOf path := by
      rw [locationOf, locationOf, keeps.current]
    rw [location_of_locate twinLocated, same, entryAt?_eq_file_iff.1 there] at found
    exact (Option.some.inj found).symm
  rw [FileSystem.read, FileSystem.stat, twinLocated]
  simp only [Except.map, node]

end Keeps

/-- What is written to a file is read by the spelling that led to it. -/
theorem read_writeAt {files : FileSystem} {path : Path} {octets : List UInt8}
    (read : files.read path = .ok octets) (fresh : List UInt8) :
    (files.writeAt (files.locationOf path) fresh).read path = .ok fresh := by
  have held := entryAt?_of_read read
  exact (Keeps.writeAt held fresh).read read ((entryAt?_writeAt held ..).trans (if_pos rfl))

end FileSystem

end ClassMove
