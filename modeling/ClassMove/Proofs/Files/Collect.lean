import ClassMove.Proofs.Files.Follow
import ClassMove.Proofs.Files.Walk
import ClassMove.Proofs.Path.Order
import ClassMove.Proofs.Path.Spelling

/-!
# What is collected below a path

Collecting the files below a path, however it is spelled, finds the files at and below its
location that are kept and that no skipped directory hides.  Each of them is found once,
by the spelling of the path and the names that lead down, and they come in the order of
these paths: what is in a directory comes before a file whose name only begins with the
name of the directory.

A directory whose path is too long to be followed cannot be listed, and what lies in it is
not found.
-/

namespace ClassMove.FileSystem

variable {files : FileSystem} {start path : Path} {skip : List Text} {keep : Path → Bool}

theorem pathExists_iff : files.pathExists start = true ↔ ∃ node, files.stat start = .ok node := by
  rw [pathExists]
  cases files.stat start with
  | error refusal => simp
  | ok node => simp

/-- What a path leads to stands at its location. -/
theorem find?_of_stat {node : Node} (stat : files.stat start = .ok node) :
    files.find? (files.locationOf start) = some node := by
  rw [FileSystem.stat] at stat
  cases located : files.locate start with
  | error refusal =>
    rw [located] at stat
    cases stat
  | ok cursor =>
    rw [located] at stat
    cases Except.ok.inj stat
    rw [← location_of_locate located]
    exact find?_of_locate located

theorem locationOf_descend (files : FileSystem) (start : Path) (names : List FileName) :
    files.locationOf (start.descend names) = (files.locationOf start).descend names :=
  Location.ofPath_descend files.current start names

/-- The files that are collected, by the names that lead to them. -/
theorem mem_collect_iff :
    path ∈ files.collect start skip keep ↔
      files.pathExists start = true ∧ ∃ names octets, path = start.descend names ∧
        files.entryAt? (files.locationOf path) = some (.file octets) ∧
        (∀ directory ∈ names.dropLast, ∀ text ∈ skip, directory.octets ≠ Utf8.encode text) ∧
        isListed start names = true ∧ keep path = true := by
  rw [collect, pathExists_iff]
  cases stat : files.stat start with
  | error refusal => simp
  | ok node =>
    have found := find?_of_stat stat
    have ordered : node.Ordered := files.ordered.get? found
    have held : ∀ names, files.entryAt? (files.locationOf (start.descend names)) =
        node.entryAt? names := by
      intro names
      rw [locationOf_descend, entryAt?_descend found]
    simp only [List.mem_filter, List.mem_map, ordered.mem_walk, FileName.isAmong_eq_false_iff]
    constructor
    · rintro ⟨⟨names, ⟨⟨⟨octets, file⟩, unskipped⟩, listed⟩, rfl⟩, kept⟩
      exact ⟨⟨node, rfl⟩, names, octets, rfl, (held names).trans file, unskipped, listed, kept⟩
    · rintro ⟨-, names, octets, rfl, file, unskipped, listed, kept⟩
      rw [held] at file
      exact ⟨⟨names, ⟨⟨⟨octets, file⟩, unskipped⟩, listed⟩, rfl⟩, kept⟩

/-- What is collected is in the order of the paths. -/
theorem pairwise_collect (files : FileSystem) (start : Path) (skip : List Text)
    (keep : Path → Bool) : (files.collect start skip keep).Pairwise Path.ComesBefore := by
  rw [collect]
  split
  · exact .nil
  · next node stat =>
    have ordered : node.Ordered := files.ordered.get? (find?_of_stat stat)
    have walked := (ordered.pairwise_walk skip).filter (isListed start)
    have spelled := walked.map start.descend fun _ _ before => start.comesBefore_descend before
    exact spelled.filter keep

/-- What is in a directory comes before a file whose name begins with that of the directory.  A
skipped directory hides what is in it, and a file of the same name is found. -/
example :
    let tree := ["/a", "/a/out"].foldl (fun files path => files.makeDirAt (.ofString path))
      (empty .root)
    let files := ["/a.java", "/a/Z.java", "/a/out/Y.java", "/out"].foldl
      (fun files path => files.writeAt (.ofString path) []) tree
    files.collect (.ofString "./") ["out".toList] (fun _ => true) =
      ["./a/Z.java", "./a.java", "./out"].map Path.ofString := by
  decide +kernel

/-- No place is collected twice. -/
theorem nodup_map_locationOf_collect (files : FileSystem) (start : Path) (skip : List Text)
    (keep : Path → Bool) : ((files.collect start skip keep).map files.locationOf).Nodup := by
  have once : (files.collect start skip keep).Nodup := by
    refine (pairwise_collect files start skip keep).imp ?_
    rintro first second before rfl
    exact first.comesBefore_irrefl before
  refine once.map_on ?_
  intro first listed second otherListed same
  rcases mem_collect_iff.1 listed with ⟨-, names, -, rfl, -⟩
  rcases mem_collect_iff.1 otherListed with ⟨-, others, -, rfl, -⟩
  rw [locationOf_descend, locationOf_descend] at same
  rw [Location.descend_injective _ same]

/-- Exactly those files are collected that lie at or below the path in directories that can be
listed, that are kept, and that lie in no skipped directory below the path; each place is collected
once; and the paths are in strict order, component by component. -/
theorem collects_files_in_order (files : FileSystem) (start : Path) (skip : List Text)
    (keep : Path → Bool) :
    (∀ path, path ∈ files.collect start skip keep ↔
      files.pathExists start = true ∧ ∃ names octets, path = start.descend names ∧
        files.entryAt? (files.locationOf path) = some (.file octets) ∧
        (∀ directory ∈ names.dropLast, ∀ text ∈ skip, directory.octets ≠ Utf8.encode text) ∧
        isListed start names = true ∧ keep path = true) ∧
    ((files.collect start skip keep).map files.locationOf).Nodup ∧
    (files.collect start skip keep).Pairwise Path.ComesBefore :=
  ⟨fun _ => mem_collect_iff, nodup_map_locationOf_collect files start skip keep,
    pairwise_collect files start skip keep⟩

end ClassMove.FileSystem
