import ClassMove.Move.Propagate
import ClassMove.Proofs.Files.Walk
import ClassMove.Proofs.Identity.Resolver
import ClassMove.Proofs.Source.Changes

/-!
# Visiting files one by one

A visit of a file depends on nothing but the place of the file and its octets: what it
tells and what becomes of the file do not depend on the files that were visited before,
nor on what the resolver remembers.  So a run over many files tells of each file what a
visit of it alone tells, and changes each file as a visit of it alone does.
-/

namespace ClassMove

/-! ## What one visit tells and does -/

/-- The warning that a file lies where another class belongs. -/
def mismatchEvents (base location : Location) (contents : ClassName) : List Event :=
  match Dialect.ofLocation? location, Identity.ofLocation base location with
  | some dialect, .ok located =>
    if identitiesAgree dialect located.name contents then []
    else [.warning .identityMismatch (some (base.displayBelow location))
      ("declares " ++ contents.display ++ " but is located as " ++ located.name.display)]
  | _, _ => []

/-- What is told of a file that imports the moved class. -/
def updateEvent (plan : MovePlan) (shown : String) (lines : Nat) : Event :=
  if lines = 0 then
    .warning .importNotUpdated (some shown)
      ("imports " ++ plan.old.display ++ " but no import line could be rewritten")
  else .importsUpdated shown plan.old plan.new lines

/-- What is told of a file with these octets. -/
def visitEvents (plan : MovePlan) (base location : Location) (octets : List UInt8) : List Event :=
  match Identity.ofOctets location.display location octets with
  | .error failure =>
    [.warning .malformedSource (some (base.displayBelow location)) (skipReason failure.cause)]
  | .ok identity =>
    mismatchEvents base location identity.name ++
      if identity.importsClass plan.old then
        [updateEvent plan (base.displayBelow location)
          (Revision.ofOctets (reimport plan.old plan.new) () octets).linesChanged]
      else []

/-- The files that events say were updated. -/
def updatedFiles (events : List Event) : List UpdatedFile :=
  events.filterMap fun
    | .importsUpdated file _ _ lines => some ⟨file, lines⟩
    | _ => none

/-- Do the octets declare a class and import the other one? -/
def importsClass (name : ClassName) (octets : List UInt8) : Bool :=
  (declaration? octets).any fun (_, imports) => imports.contains name

/-- Octets with their imports of `old` pointed at `new`, if they declare a class at all. -/
def followed (old new : ClassName) (octets : List UInt8) : List UInt8 :=
  if importsClass old octets then reimported old new octets else octets

namespace Entry

/-- An entry after a visit. -/
def followed (old new : ClassName) : Entry → Entry
  | .file octets => .file (ClassMove.followed old new octets)
  | .dir => .dir

end Entry

/-- What is told of the file at a location, if there is one. -/
def FileSystem.eventsAt (files : FileSystem) (plan : MovePlan) (base location : Location) :
    List Event :=
  match files.entryAt? location with
  | some (.file octets) => visitEvents plan base location octets
  | _ => []

theorem updatedFiles_append (first second : List Event) :
    updatedFiles (first ++ second) = updatedFiles first ++ updatedFiles second := by
  simp [updatedFiles]

theorem updatedFiles_mismatchEvents (base location : Location) (contents : ClassName) :
    updatedFiles (mismatchEvents base location contents) = [] := by
  rw [mismatchEvents]
  split
  · split
    · rfl
    · rfl
  · rfl

/-! ## One visit -/

/-- Comparing the two identities of a file may add a warning and does nothing else. -/
theorem checkConsistency_toPath (location : Location) (contents : ClassName)
    (progress : Progress) :
    ∃ resolver : Resolver, resolver.base = progress.resolver.base ∧
      checkConsistency location.toPath (progress.resolver.base.displayBelow location) contents
          progress =
        { progress with
          resolver
          events := progress.events ++
            mismatchEvents progress.resolver.base location contents } := by
  rcases progress.resolver.resolvePath_fresh progress.files .location location with ⟨derived, base⟩
  simp only [checkConsistency, Location.ofPath?_toPath, mismatchEvents]
  cases Dialect.ofLocation? location with
  | none => exact ⟨progress.resolver, rfl, by simp⟩
  | some dialect =>
    rcases resolved : progress.resolver.resolvePath progress.files .location .fresh
      location.toPath with ⟨result, resolver⟩
    rw [resolved] at derived base
    refine ⟨resolver, base, ?_⟩
    simp only [Resolver.derive] at derived
    subst derived
    cases located : Identity.ofLocation progress.resolver.base location with
    | error failure => simp
    | ok identity =>
      dsimp only
      split
      · simp
      · rfl

theorem recordUpdate_eq (plan : MovePlan) (shown : String) (lines : Nat) (progress : Progress) :
    recordUpdate plan shown lines progress =
      { progress with
        events := progress.events ++ [updateEvent plan shown lines]
        updated := progress.updated ++ updatedFiles [updateEvent plan shown lines] } := by
  rw [recordUpdate, updateEvent]
  split
  · simp [Progress.tell, updatedFiles]
  · simp [Progress.tell, updatedFiles]

theorem importsClass_of_ofOctets {shown : String} {location : Location} {octets : List UInt8}
    {identity : Identity} (derived : Identity.ofOctets shown location octets = .ok identity)
    (name : ClassName) : importsClass name octets = identity.importsClass name := by
  rw [importsClass, (Identity.ofOctets_eq_ok_iff.1 derived).1]
  rfl

/-- A file that lists a class among its imports has a line that is changed with the class. -/
theorem linesChanged_pos {old : ClassName} {octets : List UInt8}
    (imports : importsClass old octets = true) (new : ClassName) :
    0 < (Revision.ofOctets (reimport old new) () octets).linesChanged := by
  cases found : declaration? octets with
  | none => simp [importsClass, found] at imports
  | some pair =>
    rcases pair with ⟨declared, listed⟩
    have member : 0 < listed.count old := by
      apply List.count_pos_iff.2
      simpa [importsClass, found] using imports
    exact Nat.lt_of_lt_of_le member (count_le_linesChanged_reimport found old new)

theorem FileSystem.editImports_toPath {files : FileSystem} {location : Location}
    {octets : List UInt8} (read : files.read location.toPath = .ok octets) (old new : ClassName)
    (preview : Bool) :
    files.editImports location.toPath old new preview =
      .ok ((Revision.ofOctets (reimport old new) () octets).linesChanged,
        if preview then files else files.writeAt location (reimported old new octets)) := by
  rw [editImports_of_read read, locationOf, Location.ofPath_toPath]

/-- A file that can be read is visited: what is told and done follows from its octets. -/
theorem visitFile_of_read {plan : MovePlan} {base location : Location} {before : Progress}
    {octets : List UInt8} (spelled : plan.base = base.toPath)
    (resolves : before.resolver.base = base)
    (read : before.files.read location.toPath = .ok octets) (preview : Bool) :
    ∃ resolver : Resolver, resolver.base = base ∧
      visitFile plan preview location.toPath before =
        (.ok (),
          { files := if importsClass plan.old octets && !preview then
                before.files.writeAt location (reimported plan.old plan.new octets)
              else before.files
            resolver
            events := before.events ++ visitEvents plan base location octets
            updated := before.updated ++
              updatedFiles (visitEvents plan base location octets) }) := by
  rcases before.resolver.resolvePath_fresh before.files .contents location with ⟨derived, kept⟩
  have shown : location.toPath.displayRelative before.files.current plan.base =
      base.displayBelow location := by
    rw [spelled, Path.displayRelative, Location.ofPath_toPath, Location.ofPath_toPath]
  rcases resolved : before.resolver.resolvePath before.files .contents .fresh location.toPath with
    ⟨result, resolver⟩
  rw [resolved, Resolver.derive_contents read] at derived
  rw [resolved, resolves] at kept
  simp only [visitFile, shown, resolved]
  cases identified : Identity.ofOctets location.display location octets with
  | error failure =>
    rw [identified] at derived
    subst derived
    rcases Identity.isSkippable_of_ofOctets identified with ⟨skippable, nothing⟩
    refine ⟨resolver, kept, ?_⟩
    simp [visitEvents, identified, skippable, importsClass, nothing, Progress.tell, updatedFiles]
  | ok identity =>
    rw [identified] at derived
    subst derived
    have imported := importsClass_of_ofOctets identified plan.old
    rcases checkConsistency_toPath location identity.name { before with resolver } with
      ⟨later, base', checked⟩
    dsimp only at kept checked base'
    rw [kept] at checked base'
    refine ⟨later, base', ?_⟩
    simp only [visitEvents, identified, checked, imported]
    cases identity.importsClass plan.old with
    | false => simp [updatedFiles_mismatchEvents]
    | true =>
      simp only [↓reduceIte, FileSystem.editImports_toPath read, recordUpdate_eq,
        updatedFiles_append, updatedFiles_mismatchEvents]
      cases preview with
      | true => simp
      | false => simp

/-- A file that cannot be read ends the walk. -/
theorem exists_read_of_visitFile {plan : MovePlan} {preview : Bool} {location : Location}
    {before after : Progress}
    (done : visitFile plan preview location.toPath before = (.ok (), after)) :
    ∃ octets, before.files.read location.toPath = .ok octets := by
  rcases before.resolver.resolvePath_fresh before.files .contents location with ⟨derived, -⟩
  cases read : before.files.read location.toPath with
  | ok octets => exact ⟨octets, rfl⟩
  | error refusal =>
    exfalso
    rcases resolved : before.resolver.resolvePath before.files .contents .fresh location.toPath with
      ⟨result, resolver⟩
    rw [resolved, Resolver.derive, Identity.ofContents, read] at derived
    dsimp only at derived
    subst derived
    simp only [visitFile, resolved] at done
    cases done

/-! ## A run over many files -/

/-- What became of the files at `locations` and what was told of them, between two points of a
walk. -/
structure Visits (plan : MovePlan) (preview : Bool) (base : Location) (locations : List Location)
    (before after : Progress) : Prop where
  resolves : after.resolver.base = base
  told : after.events =
    before.events ++ locations.flatMap (before.files.eventsAt plan base)
  updated : after.updated =
    before.updated ++ updatedFiles (locations.flatMap (before.files.eventsAt plan base))
  previewed : preview = true → after.files = before.files
  entries : preview = false → ∀ other, after.files.entryAt? other =
    if other ∈ locations then (before.files.entryAt? other).map (Entry.followed plan.old plan.new)
    else before.files.entryAt? other

theorem visits_visitFile {plan : MovePlan} {preview : Bool} {base location : Location}
    {before after : Progress} (spelled : plan.base = base.toPath)
    (resolves : before.resolver.base = base)
    (done : visitFile plan preview location.toPath before = (.ok (), after)) :
    Visits plan preview base [location] before after := by
  rcases exists_read_of_visitFile done with ⟨octets, read⟩
  rcases FileSystem.read_toPath_eq_ok_iff.1 read with ⟨-, -, held⟩
  rcases visitFile_of_read spelled resolves read preview with ⟨resolver, base', outcome⟩
  have events : [location].flatMap (before.files.eventsAt plan base) =
      visitEvents plan base location octets := by
    simp [FileSystem.eventsAt, held]
  rw [outcome] at done
  cases (Prod.mk.inj done).2
  refine ⟨base', by rw [events], by rw [events], ?_, ?_⟩
  · rintro rfl
    simp
  · rintro rfl other
    by_cases here : other = location
    · subst here
      cases imports : importsClass plan.old octets with
      | false => simp [held, Entry.followed, followed, imports]
      | true => simp [FileSystem.entryAt?_writeAt held, held, Entry.followed, followed, imports]
    · cases importsClass plan.old octets with
      | false => simp [here]
      | true => simp [FileSystem.entryAt?_writeAt held, here]

theorem Visits.nil {plan : MovePlan} {preview : Bool} {base : Location} {progress : Progress}
    (resolves : progress.resolver.base = base) :
    Visits plan preview base [] progress progress := by
  constructor
  · exact resolves
  · simp
  · simp [updatedFiles]
  · simp
  · simp

/-- A visit and then a run over other files are a run over all of them. -/
theorem Visits.cons {plan : MovePlan} {preview : Bool} {base location : Location}
    {locations : List Location} {before middle after : Progress}
    (first : Visits plan preview base [location] before middle)
    (rest : Visits plan preview base locations middle after) (fresh : location ∉ locations) :
    Visits plan preview base (location :: locations) before after := by
  -- The first visit wrote to no file that is still to be visited.
  have same : ∀ other ∈ locations, middle.files.entryAt? other = before.files.entryAt? other := by
    intro other member
    cases preview with
    | true => rw [first.previewed rfl]
    | false =>
      rw [first.entries rfl, if_neg]
      rw [List.mem_singleton]
      rintro rfl
      exact fresh member
  have events : locations.flatMap (middle.files.eventsAt plan base) =
      locations.flatMap (before.files.eventsAt plan base) := by
    apply List.flatMap_congr
    intro other member
    rw [FileSystem.eventsAt, FileSystem.eventsAt, same other member]
  constructor
  · exact rest.resolves
  · rw [rest.told, first.told, events]
    simp
  · rw [rest.updated, first.updated, events]
    simp [updatedFiles]
  · intro previewing
    rw [rest.previewed previewing, first.previewed previewing]
  · intro real other
    rw [rest.entries real]
    by_cases later : other ∈ locations
    · rw [if_pos later, same other later, if_pos (List.mem_cons_of_mem _ later)]
    · rw [if_neg later, first.entries real]
      simp [later]

/-- A run that ends well visits each file. -/
theorem visits_visitFiles {plan : MovePlan} {preview : Bool} {base : Location}
    {locations : List Location} {before after : Progress} (spelled : plan.base = base.toPath)
    (resolves : before.resolver.base = base) (distinct : locations.Nodup)
    (done : visitFiles plan preview (locations.map Location.toPath) before = (.ok (), after)) :
    Visits plan preview base locations before after := by
  induction locations generalizing before with
  | nil =>
    cases (Prod.mk.inj done).2
    exact .nil resolves
  | cons location locations ih =>
    rcases List.nodup_cons.1 distinct with ⟨fresh, others⟩
    rw [List.map_cons, visitFiles] at done
    rcases visited : visitFile plan preview location.toPath before with ⟨result, middle⟩
    cases result with
    | error failure =>
      rw [visited] at done
      cases done
    | ok _ =>
      have first := visits_visitFile spelled resolves visited
      rw [visited] at done
      exact first.cons (ih first.resolves others done) fresh

/-! ## A whole walk -/

/-- The locations that are visited, in order: those of all files that are searched, in a preview
without the source. -/
def visitedLocations (files : FileSystem) (settings : Settings) (base source : Location)
    (preview : Bool) : List Location :=
  (files.searched settings base).filter fun location => !(preview && location == source)

theorem visitedLocations_real (files : FileSystem) (settings : Settings)
    (base source : Location) :
    visitedLocations files settings base source false = files.searched settings base := by
  simp [visitedLocations]

theorem nodup_visitedLocations (files : FileSystem) (settings : Settings)
    (base source : Location) (preview : Bool) :
    (visitedLocations files settings base source preview).Nodup :=
  (files.pairwise_searched settings base).nodup.filter _

theorem filesToVisit_eq {files : FileSystem} {plan : MovePlan} {base source : Location}
    (baseSpelled : plan.base = base.toPath) (sourceSpelled : plan.source = source.toPath)
    (rooted : files.entryAt? .root = some .dir) (accepted : FileSystem.accept base.toPath = .ok ())
    (settings : Settings) (preview : Bool) :
    filesToVisit files plan settings preview =
      (visitedLocations files settings base source preview).map Location.toPath := by
  rw [filesToVisit, sourceFiles, baseSpelled, sourceSpelled,
    FileSystem.collect_toPath settings rooted accepted, visitedLocations]
  cases preview with
  | false => simp
  | true =>
    simp only [↓reduceIte, List.filter_map, Bool.true_and]
    congr 1
    apply List.filter_congr
    intro location _
    simp only [Function.comp_apply]
    congr 1
    rw [Bool.eq_iff_iff, Location.toPath_sameAs, beq_iff_eq]

/-- Letting the imports follow a class that changes its name visits every file that is searched. -/
theorem visits_propagate {plan : MovePlan} {settings : Settings} {preview : Bool}
    {base source : Location} {before after : Progress} (baseSpelled : plan.base = base.toPath)
    (sourceSpelled : plan.source = source.toPath)
    (rooted : before.files.entryAt? .root = some .dir)
    (accepted : FileSystem.accept base.toPath = .ok ()) (resolves : before.resolver.base = base)
    (renamed : plan.old ≠ plan.new)
    (done : propagate plan settings preview before = (.ok (), after)) :
    Visits plan preview base (visitedLocations before.files settings base source preview)
      before after := by
  rw [propagate, if_neg renamed,
    filesToVisit_eq baseSpelled sourceSpelled rooted accepted settings preview] at done
  exact visits_visitFiles baseSpelled resolves
    (nodup_visitedLocations before.files settings base source preview) done

end ClassMove
