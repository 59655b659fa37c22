import ClassMove.Proofs.Move.Consistent

/-!
# Imports that follow, file by file

If every file below the base can be opened, letting the imports follow never fails,
whatever the files hold.  What is told of a file can be read off an inspection of it:
a file without a class by contents is passed over; any other file is noticed if its two
classes differ, and updated if it lists the old class among its imports, in every line
that imports the class, also behind the header.  The files that are updated are those
whose octets change.

A preview tells the same without writing, and leaves the source out.
-/

namespace ClassMove

open Utf8

/-! ## What is told of a file -/

/-- How many lines import the class, wherever they stand. -/
def importLines (name : ClassName) (octets : List UInt8) : Nat :=
  (lines octets).countP fun line =>
    match ImportLine.ofLine? (view line) with
    | some found => found.importedClass.toOption.map Prod.fst == some name
    | none => false

namespace Inspection

/-- The warning that a file lies where another class belongs. -/
def mismatch (inspection : Inspection) : Event :=
  .warning .identityMismatch (some inspection.path)
    ("declares " ++ shown inspection.contents? ++ " but is located as " ++
      shown inspection.location?)
where
  shown (name? : Option ClassName) : String :=
    (name?.map ClassName.display).getD ""

/-- What is told of an inspected file with so many lines that import the old class.  A file that
declares no class is passed over for the given reason. -/
def events (inspection : Inspection) (plan : MovePlan) (reason : String) (lines : Nat) :
    List Event :=
  match inspection.contents? with
  | none => [.warning .malformedSource (some inspection.path) reason]
  | some _ =>
    (if inspection.consistent? = some false then [inspection.mismatch] else []) ++
      if plan.old ∈ inspection.imports then
        [.importsUpdated inspection.path plan.old plan.new lines]
      else []

end Inspection

theorem importLines_eq (name : ClassName) (octets : List UInt8) :
    importLines name octets = (said octets).countP (Line.importsClass name) := by
  rw [importLines, said, List.countP_map]
  apply List.countP_congr
  intro line _
  rw [Function.comp_apply]
  rcases Line.ofText_cases (view line) with
    ⟨found, said, -, noImport, -⟩ | ⟨found, said, read, -, -⟩ | ⟨found, said, -, -, noImport⟩ |
      ⟨said, -, noImport, -⟩
  · simp [said, Line.importsClass, noImport]
  · simp only [said, Line.importsClass, read, ImportLine.suffixOf?]
    cases found.importedClass with
    | error failure => simp [Except.toOption]
    | ok pair =>
      rcases pair with ⟨imported, suffix⟩
      by_cases same : imported = name
      · simp [Except.toOption, same]
      · simp [Except.toOption, same]
  · simp [said, Line.importsClass, noImport]
  · simp [said, Line.importsClass, noImport]

theorem updateEvent_of_importsClass {plan : MovePlan} {octets : List UInt8}
    (imports : importsClass plan.old octets = true) (shown : String) :
    updateEvent plan shown (Revision.ofOctets (reimport plan.old plan.new) () octets).linesChanged =
      .importsUpdated shown plan.old plan.new (importLines plan.old octets) := by
  rw [updateEvent, if_neg (Nat.ne_of_gt (linesChanged_pos imports plan.new)),
    linesChanged_reimport, importLines_eq]

/-! ## Inspections -/

/-- What is told of a source file can be read off an inspection of it. -/
theorem exists_inspectFile {files : FileSystem} {plan : MovePlan} {base location : Location}
    {octets : List UInt8} {dialect : Dialect} (spelled : plan.base = base.toPath)
    (isDir : files.isDir plan.base = true) (known : Dialect.ofLocation? location = some dialect)
    (read : files.read location.toPath = .ok octets) (settings : Settings) :
    ∃ inspection reason,
      inspectFile files settings (some plan.base) location.toPath = (.ok inspection, []) ∧
      visitEvents plan base location octets =
        inspection.events plan reason (importLines plan.old octets) := by
  rcases FileSystem.read_toPath_eq_ok_iff.1 read with ⟨accepted, -, held⟩
  have reached := FileSystem.reach?_eq_some_iff.2
    ⟨accepted, FileSystem.entryAt?_eq_file_iff.1 held⟩
  rw [spelled] at isDir ⊢
  rw [inspectFile_toPath reached known isDir, inspectBelow_of_read read]
  cases declared : Identity.ofOctets location.display location octets with
  | error failure =>
    refine ⟨_, skipReason failure.cause, rfl, ?_⟩
    simp [visitEvents, declared, Inspection.events, Except.toOption]
  | ok identity =>
    refine ⟨_, "", rfl, ?_⟩
    have imports := importsClass_of_ofOctets declared plan.old
    simp only [visitEvents, declared, Inspection.events, Except.toOption, Option.map_some]
    congr 1
    · rw [mismatchEvents, known]
      cases Identity.ofLocation base location with
      | error failure => simp [agreement?]
      | ok located =>
        cases agree : identitiesAgree dialect located.name identity.name with
        | true => simp [agreement?, agree]
        | false => simp [agreement?, agree, Inspection.mismatch, Inspection.mismatch.shown]
    · have member : plan.old ∈ identity.imports ↔ identity.importsClass plan.old = true := by
        simp [Identity.importsClass]
      cases imported : identity.importsClass plan.old with
      | false => simp [member, imported]
      | true => simp [member, imported, updateEvent_of_importsClass (imports.trans imported)]

/-! ## Files that change -/

theorem updatedFiles_visitEvents (plan : MovePlan) (base location : Location)
    (octets : List UInt8) :
    updatedFiles (visitEvents plan base location octets) =
      if importsClass plan.old octets then
        [⟨base.displayBelow location, importLines plan.old octets⟩]
      else [] := by
  rw [visitEvents]
  cases declared : Identity.ofOctets location.display location octets with
  | error failure =>
    have nothing := (Identity.isSkippable_of_ofOctets declared).2
    simp [importsClass, nothing, updatedFiles]
  | ok identity =>
    have imports := importsClass_of_ofOctets declared plan.old
    dsimp only
    rw [updatedFiles_append, updatedFiles_mismatchEvents, List.nil_append, ← imports]
    cases imported : importsClass plan.old octets with
    | false => rfl
    | true =>
      rw [if_pos rfl, if_pos rfl, updateEvent_of_importsClass imported]
      rfl

/-- The imports of a file that declares a class follow exactly if the file changes. -/
theorem followed_eq_self_iff {old new : ClassName} (renamed : old ≠ new) (octets : List UInt8) :
    followed old new octets = octets ↔ importsClass old octets = false := by
  rw [followed]
  cases imports : importsClass old octets with
  | false => simp
  | true =>
    have changed := linesChanged_pos imports new
    rw [linesChanged_reimport] at changed
    simpa using reimported_ne renamed changed

/-- The file at a location, if what stands there is another file later, with the number of lines
that imported the old class. -/
def FileSystem.changedAt? (before after : FileSystem) (plan : MovePlan) (base location : Location) :
    Option UpdatedFile :=
  match before.entryAt? location with
  | some (.file octets) =>
    if after.entryAt? location = some (.file octets) then none
    else some ⟨base.displayBelow location, importLines plan.old octets⟩
  | _ => none

/-- The files that a real run says were updated are those that changed. -/
theorem Visits.updated_eq {plan : MovePlan} {base : Location} {locations : List Location}
    {before after : Progress} (visits : Visits plan false base locations before after)
    (renamed : plan.old ≠ plan.new) :
    after.updated = before.updated ++
      locations.filterMap (before.files.changedAt? after.files plan base) := by
  rw [visits.updated, updatedFiles, List.filterMap_flatMap, List.filterMap_eq_flatMap_toList]
  congr 1
  apply List.flatMap_congr
  intro location member
  rw [← updatedFiles, FileSystem.eventsAt, FileSystem.changedAt?, visits.entries rfl, if_pos member]
  cases held : before.files.entryAt? location with
  | none => rfl
  | some entry =>
    cases entry with
    | dir => rfl
    | file octets =>
      have kept := followed_eq_self_iff renamed octets
      simp only [updatedFiles_visitEvents, Option.map_some, Entry.followed, Option.some.injEq,
        Entry.file.injEq, kept]
      cases importsClass plan.old octets with
      | false => rfl
      | true => rfl

/-! ## Runs that cannot fail -/

namespace FileSystem

/-- Every file below the base can be opened. -/
def Opens (files : FileSystem) (base : Location) : Prop :=
  ∀ names octets, files.entryAt? (base.descend names) = some (.file octets) →
    files.read (base.descend names).toPath = .ok octets

/-- If all files can be opened, the walk comes to every source file that no skipped directory
hides. -/
theorem Opens.mem_searched {files : FileSystem} {base : Location} (opens : files.Opens base)
    {settings : Settings} {location : Location} :
    location ∈ files.searched settings base ↔
      ∃ names octets, location = base.descend names ∧
        files.entryAt? location = some (.file octets) ∧
        (Dialect.ofLocation? location).isSome = true ∧
        ∀ name ∈ names.dropLast, name.isAmong settings.skipDirs = false := by
  rw [FileSystem.mem_searched]
  constructor
  · rintro ⟨⟨octets, held⟩, searched⟩
    rcases exists_descend_of_isSearched searched with ⟨names, rfl, unskipped⟩
    rw [isSearched_descend, Bool.and_eq_true, Bool.and_eq_true] at searched
    exact ⟨names, octets, rfl, held, searched.1.1, unskipped⟩
  · rintro ⟨names, octets, rfl, held, known, unskipped⟩
    have accepted := (read_toPath_eq_ok_iff.1 (opens names octets held)).1
    refine ⟨⟨octets, held⟩, ?_⟩
    rw [isSearched_descend, known, isListed_of_accept accepted]
    simpa using unskipped

theorem exists_read_writeAt {files : FileSystem} {location other : Location}
    {old octets : List UInt8} (held : files.entryAt? location = some (.file old))
    (read : files.read other.toPath = .ok octets) (new : List UInt8) :
    ∃ later, (files.writeAt location new).read other.toPath = .ok later := by
  rcases read_toPath_eq_ok_iff.1 read with ⟨accepted, rooted, found⟩
  have root : Location.root ≠ location := by
    rintro rfl
    rw [held] at rooted
    cases rooted
  by_cases same : other = location
  · refine ⟨new, read_toPath_eq_ok_iff.2 ⟨accepted, ?_, ?_⟩⟩
    · rw [entryAt?_writeAt held, if_neg root, rooted]
    · rw [entryAt?_writeAt held, if_pos same]
  · refine ⟨octets, read_toPath_eq_ok_iff.2 ⟨accepted, ?_, ?_⟩⟩
    · rw [entryAt?_writeAt held, if_neg root, rooted]
    · rw [entryAt?_writeAt held, if_neg same, found]

end FileSystem

/-- A run over files that can all be opened ends well: no visit keeps a later file from being
opened. -/
theorem exists_visitFiles {plan : MovePlan} {base : Location} {locations : List Location}
    {before : Progress} (spelled : plan.base = base.toPath) (resolves : before.resolver.base = base)
    (opened : ∀ location ∈ locations, ∃ octets, before.files.read location.toPath = .ok octets)
    (preview : Bool) :
    ∃ after, visitFiles plan preview (locations.map Location.toPath) before = (.ok (), after) := by
  induction locations generalizing before with
  | nil => exact ⟨before, rfl⟩
  | cons location locations ih =>
    rcases opened location (List.mem_cons_self ..) with ⟨octets, read⟩
    rcases visitFile_of_read spelled resolves read preview with ⟨resolver, base', visited⟩
    rw [List.map_cons, visitFiles, visited]
    apply ih base'
    intro other member
    rcases opened other (List.mem_cons_of_mem _ member) with ⟨others, readable⟩
    dsimp only
    split
    · exact FileSystem.exists_read_writeAt (FileSystem.read_toPath_eq_ok_iff.1 read).2.2 readable _
    · exact ⟨others, readable⟩

/-- Letting the imports follow ends well if every file below the base can be opened. -/
theorem exists_visits_propagate {plan : MovePlan} {base source : Location} {before : Progress}
    (baseSpelled : plan.base = base.toPath) (sourceSpelled : plan.source = source.toPath)
    (isDir : before.files.isDir plan.base = true) (opens : before.files.Opens base)
    (resolves : before.resolver.base = base) (renamed : plan.old ≠ plan.new)
    (settings : Settings) (preview : Bool) :
    ∃ after, propagate plan settings preview before = (.ok (), after) ∧
      Visits plan preview base (visitedLocations before.files settings base source preview)
        before after := by
  rw [baseSpelled] at isDir
  rcases FileSystem.of_isDir_toPath isDir with ⟨accepted, rooted, -⟩
  have opened : ∀ location ∈ visitedLocations before.files settings base source preview,
      ∃ octets, before.files.read location.toPath = .ok octets := by
    intro location member
    rcases opens.mem_searched.1 (List.mem_of_mem_filter member) with ⟨names, octets, rfl, held, -⟩
    exact ⟨octets, opens names octets held⟩
  rcases exists_visitFiles baseSpelled resolves opened preview with ⟨after, ended⟩
  have done : propagate plan settings preview before = (.ok (), after) := by
    rw [propagate, if_neg renamed,
      filesToVisit_eq baseSpelled sourceSpelled rooted accepted settings preview]
    exact ended
  exact ⟨after, done,
    visits_propagate baseSpelled sourceSpelled rooted accepted resolves renamed done⟩

/-! ## File by file -/

/-- A run over the files below the base that tells of them one after the other, and lists those
that it changes. -/
structure FileByFile (plan : MovePlan) (settings : Settings) (base : Location)
    (before after : Progress) : Prop where
  /-- The run comes to the source files that no skipped directory hides. -/
  walked : ∀ location, location ∈ before.files.searched settings base ↔
    ∃ names octets, location = base.descend names ∧
      before.files.entryAt? location = some (.file octets) ∧
      (Dialect.ofLocation? location).isSome = true ∧
      ∀ name ∈ names.dropLast, name.isAmong settings.skipDirs = false
  /-- It comes to them in the order of the names that lead to them. -/
  ordered : (before.files.searched settings base).Pairwise Location.ComesBefore
  /-- What it tells of a file does not depend on any other file. -/
  told : after.events = before.events ++
    (before.files.searched settings base).flatMap (before.files.eventsAt plan base)
  /-- What it tells of a file can be read off an inspection of it. -/
  judged : ∀ location ∈ before.files.searched settings base, ∀ defaults,
    ∃ octets inspection reason, before.files.entryAt? location = some (.file octets) ∧
      inspectFile before.files defaults (some plan.base) location.toPath = (.ok inspection, []) ∧
      visitEvents plan base location octets =
        inspection.events plan reason (importLines plan.old octets)
  /-- It lists the files that it changes. -/
  updated : after.updated = before.updated ++
    (before.files.searched settings base).filterMap
      (before.files.changedAt? after.files plan base)
  /-- It changes nothing else. -/
  untouched : ∀ location, location ∉ before.files.searched settings base →
    after.files.entryAt? location = before.files.entryAt? location

/-- If all files below the base can be opened, the imports follow without a failure, file by file.
A preview tells the same of all files but the source, and writes nothing. -/
theorem propagate_file_by_file {plan : MovePlan} {base source : Location} {before : Progress}
    (baseSpelled : plan.base = base.toPath) (sourceSpelled : plan.source = source.toPath)
    (isDir : before.files.isDir plan.base = true) (opens : before.files.Opens base)
    (resolves : before.resolver.base = base) (renamed : plan.old ≠ plan.new)
    (settings : Settings) :
    ∃ after previewed,
      propagate plan settings false before = (.ok (), after) ∧
      FileByFile plan settings base before after ∧
      propagate plan settings true before = (.ok (), previewed) ∧
      previewed.files = before.files ∧
      previewed.events = before.events ++
        ((before.files.searched settings base).filter (· != source)).flatMap
          (before.files.eventsAt plan base) ∧
      (source ∉ before.files.searched settings base →
        previewed.events = after.events ∧ previewed.updated = after.updated) := by
  rcases exists_visits_propagate baseSpelled sourceSpelled isDir opens resolves renamed settings
    false with ⟨after, done, visits⟩
  rcases exists_visits_propagate baseSpelled sourceSpelled isDir opens resolves renamed settings
    true with ⟨previewed, previewDone, shows⟩
  rw [visitedLocations_real] at visits
  refine ⟨after, previewed, done, ?_, previewDone, shows.previewed rfl, ?_, ?_⟩
  · refine ⟨fun location => opens.mem_searched, before.files.pairwise_searched settings base,
      visits.told, ?_, visits.updated_eq renamed, ?_⟩
    · intro location member defaults
      rcases opens.mem_searched.1 member with ⟨names, octets, rfl, held, known, -⟩
      rcases Option.isSome_iff_exists.1 known with ⟨dialect, known⟩
      rcases exists_inspectFile baseSpelled isDir known (opens names octets held) defaults with
        ⟨inspection, reason, inspected, told⟩
      exact ⟨octets, inspection, reason, held, inspected, told⟩
    · intro location other
      rw [visits.entries rfl, if_neg other]
  · rw [shows.told]
    rfl
  · intro absent
    have same : visitedLocations before.files settings base source true =
        before.files.searched settings base := by
      apply List.filter_eq_self.2
      intro location member
      simp only [Bool.true_and, Bool.not_eq_true', beq_eq_false_iff_ne]
      rintro rfl
      exact absent member
    rw [shows.told, shows.updated, visits.told, visits.updated, same]
    exact ⟨rfl, rfl⟩

/-- Can the spellings of all files below the base be followed? -/
def FileSystem.spellsAll (files : FileSystem) (base : Location) : Bool :=
  (files.find? base).all fun node =>
    (node.walk []).all fun names => accept (base.descend names).toPath == .ok ()

/-- A spelling that cannot be followed is the only reason why a file cannot be opened. -/
theorem FileSystem.opens_iff {files : FileSystem} {base : Location}
    (isDir : files.isDir base.toPath = true) :
    files.Opens base ↔ files.spellsAll base = true := by
  rcases of_isDir_toPath isDir with ⟨-, rooted, there⟩
  rcases entryAt?_eq_dir_iff.1 there with ⟨entries, found⟩
  have ordered : (Node.dir entries).Ordered := files.ordered.get? found
  simp only [spellsAll, found, Option.all_some, List.all_eq_true, beq_iff_eq, ordered.mem_walk]
  constructor
  · rintro opens names ⟨⟨octets, held⟩, -⟩
    rw [← entryAt?_descend found] at held
    exact (read_toPath_eq_ok_iff.1 (opens names octets held)).1
  · intro accepted names octets held
    refine read_toPath_eq_ok_iff.2 ⟨accepted names ⟨⟨octets, ?_⟩, ?_⟩, rooted, held⟩
    · rw [← entryAt?_descend found, held]
    · simp [FileName.isAmong_eq_false_iff]

/-- The class has left `g.G`.  One file imports it, another one imports it twice and lies in the
wrong directory, and one is no source. -/
def leftFiles : FileSystem :=
  .ofFiles [("/java/h/H.java", "package h;\nclass H\n"),
    ("/java/k/Broken.java", "package k\nimport g.G;\n"),
    ("/java/k/K.java", "package k;\nimport g.G;\nclass K\n"),
    ("/java/m/Astray.java", "package k;\nimport g.G;\nclass Astray\nimport static g.G.size;\n")]

def leftPlan : MovePlan where
  base := .ofString "/java"
  source := .ofString "/java/g/G.java"
  target := .ofString "/java/h/H.java"
  dialect := .java
  old := ⟨"g".toList, "G".toList, by decide, by decide⟩
  new := ⟨"h".toList, "H".toList, by decide, by decide⟩

/-- What was remembered of a file before it changed. -/
def leftProgress : Progress where
  files := leftFiles
  resolver :=
    { base := .ofString "/java"
      byContents := [(.ofString "/java/k/K.java",
        ⟨.ofString "/java/k/K.java", leftPlan.new, [], .contents⟩)] }
  events := []

theorem propagate_file_by_file_left :
    leftFiles.isDir leftPlan.base = true ∧ leftFiles.Opens (.ofString "/java") ∧
      leftPlan.old ≠ leftPlan.new ∧
      ∃ after previewed,
        propagate leftPlan {} false leftProgress = (.ok (), after) ∧
        after.updated = [⟨"k/K.java", 1⟩, ⟨"m/Astray.java", 2⟩] ∧
        FileByFile leftPlan {} (.ofString "/java") leftProgress after ∧
        propagate leftPlan {} true leftProgress = (.ok (), previewed) ∧
        previewed.events = after.events := by
  have spelled : leftPlan.base = (Location.ofString "/java").toPath := by decide +kernel
  have isDir : leftFiles.isDir leftPlan.base = true := by decide +kernel
  have opens : leftFiles.Opens (.ofString "/java") :=
    (FileSystem.opens_iff (spelled ▸ isDir)).2 (by decide +kernel)
  have renamed : leftPlan.old ≠ leftPlan.new := by decide
  have absent : Location.ofString "/java/g/G.java" ∉ leftFiles.searched {} (.ofString "/java") := by
    decide +kernel
  refine ⟨isDir, opens, renamed, ?_⟩
  rcases @propagate_file_by_file leftPlan (.ofString "/java") (.ofString "/java/g/G.java")
    leftProgress spelled (by decide +kernel) isDir opens rfl renamed {} with
    ⟨after, previewed, done, byFile, previewDone, -, -, alike⟩
  have updated : (propagate leftPlan {} false leftProgress).2.updated =
      [⟨"k/K.java", 1⟩, ⟨"m/Astray.java", 2⟩] := by decide +kernel
  rw [done] at updated
  exact ⟨after, previewed, done, updated, byFile, previewDone, (alike absent).1⟩

end ClassMove
