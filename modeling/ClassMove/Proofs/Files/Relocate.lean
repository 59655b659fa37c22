import ClassMove.Move.Execute
import ClassMove.Proofs.Files.Follow

/-!
# Making directories and renaming

Making a chain of directories adds directories of the chain and changes nothing else,
whether it succeeds or stops half way, and however the paths are spelled.  Renaming a
file after that puts its octets in the new place and takes them from the old one, or
changes nothing.
-/

namespace ClassMove.FileSystem

/-! ## The last piece of a plain spelling -/

theorem written_toPath {location : Location} (nonempty : location.names ≠ []) :
    written location.toPath = .empty :: location.names.map .down := by
  rw [written, Location.toPath_pieces nonempty, List.reverse_cons, ← List.map_reverse]
  cases reversed : location.names.reverse with
  | nil => exact absurd (List.reverse_eq_nil_iff.1 reversed) nonempty
  | cons last rest =>
    have same : location.names = (last :: rest).reverse := by rw [← reversed, List.reverse_reverse]
    simp [same]

theorem locateParent_toPath {files : FileSystem} {parent : Location} {name : FileName}
    {found : Option (Cursor × Piece)}
    (located : files.locateParent (parent.descend [name]).toPath = .ok found) :
    accept (parent.descend [name]).toPath = .ok () ∧
      ∃ cursor, found = some (cursor, .down name) ∧ cursor.location = parent ∧
        files.find? parent = some cursor.node ∧ files.entryAt? parent = some .dir := by
  have nonempty : (parent.descend [name]).names ≠ [] := by simp [Location.descend]
  have pieces : written (parent.descend [name]).toPath =
      (.empty :: parent.names.map .down) ++ [.down name] := by
    rw [written_toPath nonempty]
    simp [Location.descend]
  have absolute := (parent.descend [name]).toPath_isAbsolute
  simp only [locateParent, pieces, List.getLast?_concat, List.dropLast_concat, follow, start,
    absolute, ↓reduceIte] at located
  cases accepted : accept (parent.descend [name]).toPath with
  | error refusal => simp [accepted, bind, Except.bind] at located
  | ok _ =>
    cases tree : files.tree with
    | file octets => simp [accepted, tree, Cursor.enter, Node.isFile, bind, Except.bind] at located
    | dir entries =>
      cases followed : (parent.names.map Piece.down).foldlM Cursor.enter ⟨.dir entries, []⟩ with
      | error refusal =>
        simp [accepted, tree, Cursor.enter, Node.isFile, followed, bind, Except.bind] at located
      | ok cursor =>
        rcases foldlM_enter_down followed with ⟨names, reached⟩
        have found' : files.find? parent = some cursor.node := by
          rw [find?, tree]
          exact reached
        cases node : cursor.node with
        | file octets =>
          simp [accepted, tree, Cursor.enter, Node.isFile, Node.isDir, followed, node, bind,
            Except.bind] at located
        | dir below =>
          simp only [accepted, tree, Cursor.enter, Node.isFile, Node.isDir, followed, node, bind,
            Except.bind, List.foldlM_cons, Bool.false_eq_true, ↓reduceIte,
            Except.ok.injEq] at located
          rw [node] at found'
          refine ⟨rfl, cursor, located.symm, ?_, ?_, entryAt?_eq_dir_iff.2 ⟨below, found'⟩⟩
          · rw [Cursor.location, names]
            rfl
          · rw [node]
            exact found'

/-! ## The last piece of any spelling -/

theorem exists_written (path : Path) :
    ∃ rest, path.pieces = written path ++ rest ∧ ∀ piece ∈ rest, piece = .empty := by
  refine ⟨(path.pieces.reverse.takeWhile (· == .empty)).reverse, ?_, ?_⟩
  · rw [written, ← List.reverse_append, List.takeWhile_append_dropWhile, List.reverse_reverse]
  · intro piece member
    have blank := List.all_eq_true.1 (List.all_takeWhile (p := (· == Piece.empty)))
      piece (List.mem_reverse.1 member)
    simpa using blank

theorem foldl_follow_written (path : Path) (location : Location) :
    (written path).foldl Location.follow location =
      path.pieces.foldl Location.follow location := by
  rcases exists_written path with ⟨rest, cut, blank⟩
  rw [cut, List.foldl_append]
  generalize (written path).foldl Location.follow location = reached
  clear cut
  induction rest with
  | nil => rfl
  | cons piece rest ih =>
    rw [List.foldl_cons, blank piece (List.mem_cons_self ..)]
    exact ih fun other member => blank other (List.mem_cons_of_mem _ member)

/-- The last piece is looked up in a directory, and leads from it to the location of the path. -/
theorem locateParent_eq_ok {files : FileSystem} {path : Path} {cursor : Cursor} {piece : Piece}
    (located : files.locateParent path = .ok (some (cursor, piece))) :
    cursor.Within files.tree ∧ cursor.node.isDir = true ∧
      files.locationOf path = cursor.location.follow piece := by
  simp only [locateParent] at located
  split at located
  · cases accepted : accept path with
    | error refusal => simp [accepted, bind, Except.bind] at located
    | ok _ => simp [accepted, bind, Except.bind] at located
  · next last final =>
    rcases List.getLast?_eq_some_iff.1 final with ⟨front, cut⟩
    cases followed : files.follow path (written path).dropLast with
    | error refusal => simp [followed, bind, Except.bind] at located
    | ok reached =>
      simp only [followed, bind, Except.bind] at located
      split at located
      · next isDir =>
        cases located
        refine ⟨within_of_follow followed, isDir, ?_⟩
        rw [location_of_follow followed, locationOf, Location.ofPath, ← foldl_follow_written, cut,
          List.dropLast_concat, List.foldl_append]
        rfl
      · cases located

/-! ## Directories -/

theorem kept_of_same_or_missing {before after : Option Entry} {added : Prop} {entry : Entry}
    (grown : after = before ∨ before = none ∧ added) (there : before = some entry) :
    after = some entry := by
  rcases grown with same | ⟨missing, -⟩
  · rw [same, there]
  · rw [there] at missing
    cases missing

/-- Has `made` what `files` has, and besides only directories, each at one of the places? -/
structure Added (files made : FileSystem) (places : List Location) : Prop where
  current : made.current = files.current
  entries : ∀ other, made.entryAt? other = files.entryAt? other ∨
    files.entryAt? other = none ∧ made.entryAt? other = some .dir ∧ other ∈ places

namespace Added

variable {files made done : FileSystem} {places more : List Location}

theorem refl (files : FileSystem) (places : List Location) : Added files files places :=
  ⟨rfl, fun _ => .inl rfl⟩

theorem mono (added : Added files made places) (subset : places ⊆ more) :
    Added files made more :=
  ⟨added.current, fun other =>
    (added.entries other).imp_right fun ⟨missing, isDir, member⟩ =>
      ⟨missing, isDir, subset member⟩⟩

theorem trans (earlier : Added files made places) (later : Added made done places) :
    Added files done places := by
  refine ⟨later.current.trans earlier.current, fun other => ?_⟩
  rcases earlier.entries other with same | ⟨missing, isDir, member⟩
  · rcases later.entries other with same' | ⟨missing', isDir', member'⟩
    · exact .inl (same'.trans same)
    · exact .inr ⟨same ▸ missing', isDir', member'⟩
  · rcases later.entries other with same' | ⟨missing', -, -⟩
    · exact .inr ⟨missing, same'.trans isDir, member⟩
    · rw [missing'] at isDir
      cases isDir

theorem kept (added : Added files made places) {location : Location} {entry : Entry}
    (there : files.entryAt? location = some entry) : made.entryAt? location = some entry :=
  kept_of_same_or_missing (added.entries location) there

theorem keeps (added : Added files made places) : Keeps files made where
  current := added.current
  dirs _ isDir := added.kept isDir
  found location there := by
    rcases Option.ne_none_iff_exists'.1 there with ⟨entry, same⟩
    rw [added.kept same]
    simp

end Added

/-- A directory that is made is new, at the location of its path. -/
theorem added_makeDir {files made : FileSystem} {path : Path}
    (done : files.makeDir path = .ok made) : Added files made [files.locationOf path] := by
  simp only [makeDir] at done
  cases located : files.locateParent path with
  | error refusal => simp [located, bind, Except.bind] at done
  | ok found =>
    simp only [located, bind, Except.bind] at done
    split at done
    · next cursor name =>
      rcases locateParent_eq_ok located with ⟨within, isDir, same⟩
      split at done
      · cases done
      · next missing =>
        split at done
        · cases done
        · cases Except.ok.inj done
          have above : files.entryAt? cursor.location = some .dir := by
            rw [entryAt?_of_within within]
            cases node : cursor.node with
            | file octets =>
              rw [node] at isDir
              cases isDir
            | dir entries => rfl
          have free : files.entryAt? (cursor.location.descend [name]) = none := by
            rw [entryAt?_eq_none_iff, find?]
            show files.tree.get? (cursor.names ++ [name]) = none
            rw [Node.get?_append_singleton, within.get?]
            exact missing
          refine ⟨rfl, fun other => ?_⟩
          rw [entryAt?_makeDirAt above free]
          split
          · next here =>
            refine .inr ⟨here ▸ free, rfl, ?_⟩
            rw [same, here]
            exact List.mem_singleton_self _
          · exact .inl rfl
    · cases done

/-- Making a chain of directories, successful or not, adds directories at locations of the
chain. -/
theorem added_makeChain (files : FileSystem) (paths : List Path) :
    Added files (files.makeChain paths).2 (paths.map files.locationOf) := by
  induction paths with
  | nil => exact .refl files _
  | cons path ancestors ih =>
    have above := ih.mono (List.subset_cons_self (files.locationOf path) _)
    have here : [files.locationOf path] ⊆ (path :: ancestors).map files.locationOf := by simp
    rw [makeChain]
    split
    · exact .refl files _
    · split
      · next made done => exact (added_makeDir done).mono here
      · split
        · next refusal made stopped =>
          rw [stopped] at above
          exact above
        · next made chained =>
          rw [chained] at above
          split
          · next done last =>
            -- The directories made so far have not moved the location of the path.
            have same : made.locationOf path = files.locationOf path := by
              rw [locationOf, locationOf, above.current]
            have step := added_makeDir last
            rw [same] at step
            exact above.trans (step.mono here)
          · exact above
      · exact .refl files _

theorem added_ensureDir (files : FileSystem) (path : Path) :
    Added files (files.ensureDir path).2 (path.ancestors.map files.locationOf) := by
  have added : Added files (files.makeDirs path).2 (path.ancestors.map files.locationOf) := by
    rw [makeDirs]
    split
    · exact .refl files _
    · exact added_makeChain files path.ancestors
  rw [ensureDir]
  split
  · next made done =>
    rw [done] at added
    exact added
  · next refusal made stopped =>
    rw [stopped] at added
    exact added

/-- Has `made` what `files` has, and besides only directories at or above the location? -/
def Grown (files made : FileSystem) (location : Location) : Prop :=
  ∀ other, made.entryAt? other = files.entryAt? other ∨
    files.entryAt? other = none ∧ made.entryAt? other = some .dir ∧
      ∃ names, location = other.descend names

theorem Grown.kept {files made : FileSystem} {location other : Location}
    (grown : Grown files made location) {entry : Entry}
    (there : files.entryAt? other = some entry) : made.entryAt? other = some entry :=
  kept_of_same_or_missing (grown other) there

theorem exists_descend_of_mem_chain {location other : Location}
    (member : other ∈ location.chain) : ∃ names, location = other.descend names := by
  induction location using Location.parent_induction with
  | root =>
    cases List.mem_singleton.1 member
    exact ⟨[], rfl⟩
  | child parent name ih =>
    rw [Location.chain_descend] at member
    rcases List.mem_cons.1 member with rfl | above
    · exact ⟨[], (Location.descend_nil _).symm⟩
    · rcases ih above with ⟨names, rfl⟩
      exact ⟨names ++ [name], Location.descend_descend ..⟩

theorem grown_ensureDir (files : FileSystem) (location : Location) :
    Grown files (files.ensureDir location.toPath).2 location := by
  have added := added_ensureDir files location.toPath
  have places : location.toPath.ancestors.map files.locationOf = location.chain := by
    rw [Location.toPath_ancestors, List.map_map]
    conv => rhs; rw [← List.map_id location.chain]
    apply List.map_congr_left
    intro other _
    apply Location.ofPath_toPath
  rw [places] at added
  intro other
  refine (added.entries other).imp_right ?_
  rintro ⟨missing, isDir, member⟩
  exact ⟨missing, isDir, exists_descend_of_mem_chain member⟩

/-! ## Renaming -/

theorem moveEntry_eq_ok {files final : FileSystem} {sourceDir targetDir : Location}
    {sourceName targetName : FileName} {slash : Bool} {octets : List UInt8}
    (held : files.entryAt? (sourceDir.descend [sourceName]) = some (.file octets))
    (isDir : files.entryAt? targetDir = some .dir)
    (done : files.moveEntry sourceDir sourceName targetDir targetName slash = .ok final) :
    files.entryAt? (targetDir.descend [targetName]) ≠ some .dir ∧ ∀ other, final.entryAt? other =
      if other = targetDir.descend [targetName] then some (.file octets)
      else if other = sourceDir.descend [sourceName] then none else files.entryAt? other := by
  have found := entryAt?_eq_file_iff.1 held
  simp only [moveEntry, found] at done
  split at done
  · cases done
  · split at done
    · cases done
    · split at done
      -- A file that is renamed to itself stays.
      · next same =>
        cases Except.ok.inj done
        refine ⟨by rw [← same, held]; simp, ?_⟩
        intro other
        rw [← same]
        split
        · next here => rw [here, held]
        · rfl
      · next different =>
        split at done
        · cases done
        · split at done
          · cases done
          · have noDir : files.entryAt? (targetDir.descend [targetName]) ≠ some .dir := by
              intro taken
              rcases entryAt?_eq_dir_iff.1 taken with ⟨entries, there⟩
              simp [there, replaceable, Node.isDir, bind, Except.bind] at done
            cases swapped : (files.find? (targetDir.descend [targetName])).forM
                (replaceable (.file octets)) with
            | error refusal => simp [swapped, bind, Except.bind] at done
            | ok _ =>
              simp only [swapped, bind, Except.bind, Except.ok.injEq] at done
              subst done
              refine ⟨noDir, ?_⟩
              intro other
              exact entryAt?_moveAt held (fun same => different same.symm) isDir noDir other

/-- A file that was renamed is in its new place, and no longer in its old one. -/
theorem rename_toPath_eq_ok {files final : FileSystem} {source parent : Location}
    {name : FileName} {octets : List UInt8} (held : files.entryAt? source = some (.file octets))
    (done : files.rename source.toPath (parent.descend [name]).toPath = .ok final) :
    accept (parent.descend [name]).toPath = .ok () ∧
      files.entryAt? (parent.descend [name]) ≠ some .dir ∧
      ∀ other, final.entryAt? other =
        if other = parent.descend [name] then some (.file octets)
        else if other = source then none else files.entryAt? other := by
  simp only [rename] at done
  split at done
  · cases done
  · cases sourceEnd : files.locateParent source.toPath with
    | error refusal => simp [sourceEnd, bind, Except.bind] at done
    | ok sourceFound =>
      cases targetEnd : files.locateParent (parent.descend [name]).toPath with
      | error refusal => simp [sourceEnd, targetEnd, bind, Except.bind] at done
      | ok targetFound =>
        rcases locateParent_toPath targetEnd with ⟨accepted, cursor, rfl, same, -, above⟩
        rcases Location.exists_parent (names_ne_nil_of_file held above) with
          ⟨sourceDir, sourceName, rfl⟩
        rcases locateParent_toPath sourceEnd with ⟨-, sourceCursor, rfl, sameSource, -, -⟩
        simp only [sourceEnd, targetEnd, bind, Except.bind, same, sameSource] at done
        rcases moveEntry_eq_ok held above done with ⟨noDir, entries⟩
        exact ⟨accepted, noDir, entries⟩

/-- Relocating a file makes directories above its new place, and then renames it or stops. -/
theorem relocate_toPath (files : FileSystem) (source parent : Location) (name : FileName) :
    ∃ made, Grown files made parent ∧
      ((∃ failure, files.relocate source.toPath (parent.descend [name]).toPath =
          (.error failure, made)) ∨
        ∃ final, files.relocate source.toPath (parent.descend [name]).toPath = (.ok (), final) ∧
          made.rename source.toPath (parent.descend [name]).toPath = .ok final) := by
  have grown := grown_ensureDir files parent
  simp only [relocate, Location.toPath_parent?, Option.getD_some, parent.toPath_ne_empty,
    Bool.false_eq_true, ↓reduceIte]
  rcases ensured : files.ensureDir parent.toPath with ⟨result, made⟩
  rw [ensured] at grown
  refine ⟨made, grown, ?_⟩
  cases result with
  | error failure => exact .inl ⟨failure, rfl⟩
  | ok _ =>
    cases renamed : made.rename source.toPath (parent.descend [name]).toPath with
    | error refusal =>
      left
      simp only [renamed]
      exact ⟨_, rfl⟩
    | ok final =>
      right
      simp only [renamed]
      exact ⟨final, rfl, rfl⟩

/-- A relocation that fails has added directories at most: those that the target was to lie in. -/
theorem added_of_relocate_error {files final : FileSystem} {source target : Path}
    {failure : Failure} (failed : files.relocate source target = (.error failure, final)) :
    Added files final ((target.parent?.getD ⟨[]⟩).ancestors.map files.locationOf) := by
  rw [relocate] at failed
  generalize target.parent?.getD ⟨[]⟩ = parent at failed ⊢
  have added : Added files
      (if parent.isEmpty then (.ok (), files) else files.ensureDir parent :
        Except Failure Unit × FileSystem).2
      (parent.ancestors.map files.locationOf) := by
    split
    · exact .refl files _
    · exact added_ensureDir files parent
  split at failed
  · next stopped =>
    rw [stopped] at added
    cases failed
    exact added
  · next made done =>
    rw [done] at added
    split at failed
    · cases failed
    · cases failed
      exact added

end ClassMove.FileSystem
