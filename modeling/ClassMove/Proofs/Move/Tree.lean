import ClassMove.Proofs.Move.Execute
import ClassMove.Proofs.Move.Visit

/-!
# The tree after a move

A move that ends well accounts for every entry of the tree.  The file is at its target
with its new declarations, the files that import the moved class import it under its
new name, and all else is as it was, except for directories that the target needed.
-/

namespace ClassMove

/-- The octets of the file at a location once the imports have followed. -/
def afterWalk (settings : Settings) (base : Location) (plan : MovePlan) (location : Location)
    (octets : List UInt8) : List UInt8 :=
  if plan.old ≠ plan.new ∧ isSearched settings base location = true ∧
      importsClass plan.old octets = true then
    reimported plan.old plan.new octets
  else octets

/-- The entry at a location once the imports have followed. -/
def Entry.afterWalk (settings : Settings) (base : Location) (plan : MovePlan)
    (location : Location) : Entry → Entry
  | .file octets => .file (ClassMove.afterWalk settings base plan location octets)
  | .dir => .dir

theorem Entry.map_afterWalk_eq_dir {settings : Settings} {base location : Location}
    {plan : MovePlan} {found : Option Entry}
    (isDir : found.map (Entry.afterWalk settings base plan location) = some .dir) :
    found = some .dir := by
  rcases Option.map_eq_some_iff.1 isDir with ⟨entry, rfl, same⟩
  cases entry with
  | file octets => cases same
  | dir => rfl

theorem Entry.map_afterWalk_eq_file {settings : Settings} {base location : Location}
    {plan : MovePlan} {found : Option Entry} {octets : List UInt8}
    (isFile : found.map (Entry.afterWalk settings base plan location) = some (.file octets)) :
    ∃ old, found = some (.file old) := by
  rcases Option.map_eq_some_iff.1 isFile with ⟨entry, rfl, same⟩
  cases entry with
  | file old => exact ⟨old, rfl⟩
  | dir => cases same

theorem entryAt?_of_visits {plan : MovePlan} {settings : Settings} {base : Location}
    {before after : Progress} (renamed : plan.old ≠ plan.new)
    (visits : Visits plan false base (before.files.searched settings base) before after)
    (location : Location) :
    after.files.entryAt? location =
      (before.files.entryAt? location).map (Entry.afterWalk settings base plan location) := by
  rw [visits.entries rfl]
  cases there : before.files.entryAt? location with
  | none => simp
  | some entry =>
    cases entry with
    | dir => simp [Entry.followed, Entry.afterWalk]
    | file octets =>
      have member : location ∈ before.files.searched settings base ↔
          isSearched settings base location = true := by
        simp [FileSystem.mem_searched, there]
      by_cases inside : isSearched settings base location = true
      · simp [member, inside, Entry.followed, Entry.afterWalk, followed, afterWalk, renamed]
      · simp [member, inside, Entry.afterWalk, afterWalk]

namespace Planned

variable {files moved : FileSystem} {settings : Settings} {request : MoveRequest}
  {base : Location} {checked : CheckedMove} {plan : MovePlan} {octets : List UInt8}

theorem rooted (planned : Planned files request base checked plan) :
    files.entryAt? .root = some .dir := by
  rcases planned.exists_declaration with ⟨octets, -, -, read, -⟩
  exact (FileSystem.read_toPath_eq_ok_iff.1 read).2.1

theorem rooted_moved (planned : Planned files request base checked plan)
    (relocated : Relocated files moved checked.source (plan.targetBelow base) octets) :
    moved.entryAt? .root = some .dir := by
  have below : (plan.targetBelow base).names ≠ [] := by
    simp [MovePlan.targetBelow, Location.descend, plan.new.relativeNames_ne_nil plan.dialect]
  have higher : Location.root.isAbove (plan.targetBelow base) = true :=
    Location.isAbove_iff.2 ⟨_, below, by simp [Location.root, Location.descend]⟩
  rw [relocated.entries, movedEntryAt?, if_neg, if_neg, if_pos higher]
  · intro same
    rcases planned.exists_declaration with ⟨old, -, held, -, -⟩
    rw [← same, planned.rooted] at held
    cases held
  · intro same
    rw [← same] at below
    exact below rfl

theorem accept_base
    (relocated : Relocated files moved checked.source (plan.targetBelow base) octets) :
    FileSystem.accept base.toPath = .ok () :=
  FileSystem.accept_toPath_of_descend relocated.accepted

/-- The walk of a real run comes to every file that is searched in the tree with the file
moved. -/
theorem visits_real (planned : Planned files request base checked plan)
    {before after : Progress}
    (relocated : Relocated files before.files checked.source (plan.targetBelow base) octets)
    (resolves : before.resolver.base = base) (renamed : plan.old ≠ plan.new)
    (done : propagate plan settings false before = (.ok (), after)) :
    Visits plan false base (before.files.searched settings base) before after := by
  rcases planned.spelled with ⟨baseSpelled, sourceSpelled, -⟩
  have visits := visits_propagate baseSpelled sourceSpelled (planned.rooted_moved relocated)
    (accept_base relocated) resolves renamed done
  rwa [visitedLocations_real] at visits

end Planned

/-- What a move leaves of a tree: `octets` are those of the source before the move. -/
structure MovedTree (files final : FileSystem) (settings : Settings) (base : Location)
    (plan : MovePlan) (source target : Location) (octets : List UInt8) : Prop where
  gone : source ≠ target → final.entryAt? source = none
  arrived : final.entryAt? target =
    some (.file (afterWalk settings base plan target (declared plan.new octets)))
  others : ∀ location content, location ≠ source → location ≠ target →
    files.entryAt? location = some (.file content) →
    final.entryAt? location = some (.file (afterWalk settings base plan location content))
  noFileAdded : ∀ location content, final.entryAt? location = some (.file content) →
    location = target ∨ ∃ old, files.entryAt? location = some (.file old)
  dirsKept : ∀ location, files.entryAt? location = some .dir → final.entryAt? location = some .dir
  dirsAdded : ∀ location, final.entryAt? location = some .dir →
    files.entryAt? location = some .dir ∨
      files.entryAt? location = none ∧ location.isAbove target = true

/-- A tree is left as described when the file was relocated and the imports followed. -/
theorem Relocated.movedTree {files moved final : FileSystem} {settings : Settings}
    {base : Location} {plan : MovePlan} {source target : Location} {old : List UInt8}
    (held : files.entryAt? source = some (.file old))
    (relocated : Relocated files moved source target (declared plan.new old))
    (followed : ∀ location, final.entryAt? location =
      (moved.entryAt? location).map (Entry.afterWalk settings base plan location)) :
    MovedTree files final settings base plan source target old := by
  constructor
  · intro different
    rw [followed, relocated.entryAt?_source different]
    rfl
  · rw [followed, relocated.entryAt?_target]
    rfl
  · intro location content notSource notTarget there
    rw [followed, (relocated.entryAt?_eq_file_iff notTarget).2 ⟨notSource, there⟩]
    rfl
  · intro location content there
    rw [followed] at there
    rcases Entry.map_afterWalk_eq_file there with ⟨before, moved⟩
    by_cases atTarget : location = target
    · exact .inl atTarget
    · exact .inr ⟨before, ((relocated.entryAt?_eq_file_iff atTarget).1 moved).2⟩
  · intro location isDir
    rw [followed, relocated.dir_kept held isDir]
    rfl
  · intro location isDir
    rw [followed] at isDir
    exact relocated.dir_added (Entry.map_afterWalk_eq_dir isDir)

/-- A real run that ends well, taken apart. -/
theorem exists_real_run {files : FileSystem} {settings : Settings} {request : MoveRequest}
    {result : MoveResult} (real : request.preview = false)
    (succeeded : (moveClass files settings request).result = .ok result) :
    ∃ base checked plan octets imports moved,
      Plans files settings request base checked plan ∧
      result.old = plan.old ∧ result.new = plan.new ∧
      files.entryAt? checked.source = some (.file octets) ∧
      declaration? octets = some (plan.old, imports) ∧
      Relocated files moved checked.source (plan.targetBelow base) (declared plan.new octets) ∧
      ∀ location, (moveClass files settings request).files.entryAt? location =
        (moved.entryAt? location).map (Entry.afterWalk settings base plan location) := by
  rcases moveClass_eq_ok succeeded with
    ⟨base, checked, plan, resolver, event, moved, progress, plans, resolves, executed, followed,
      outcome⟩
  rw [real] at executed followed
  rcases plans.exists_declaration with ⟨octets, imports, held, read, found⟩
  have relocated := plans.relocated_of_executeMove read executed
  rw [outcome] at succeeded
  cases Except.ok.inj succeeded
  refine ⟨base, checked, plan, octets, imports, moved, plans, rfl, rfl, held, found, relocated, ?_⟩
  intro location
  rw [outcome]
  by_cases renamed : plan.old = plan.new
  · rw [propagate, if_pos renamed] at followed
    cases (Prod.mk.inj followed).2
    have same : Entry.afterWalk settings base plan location = id := by
      funext entry
      cases entry with
      | dir => rfl
      | file content => simp [Entry.afterWalk, afterWalk, renamed]
    rw [same, Option.map_id]
    rfl
  · have visits := plans.visits_real relocated resolves renamed followed
    exact entryAt?_of_visits renamed visits location

/-- A move that ends well leaves exactly the tree that its plan says: the source is gone, the
target holds the source with its new declarations, the files that import the moved class import
it under its new name, no other file is changed or added, no directory is lost, and only
directories that the target lies in are new. -/
theorem moveClass_tree {files : FileSystem} {settings : Settings} {request : MoveRequest}
    {result : MoveResult} (real : request.preview = false)
    (succeeded : (moveClass files settings request).result = .ok result) :
    ∃ base checked plan target octets,
      Plans files settings request base checked plan ∧ plan.base = base.toPath ∧
      plan.source = checked.source.toPath ∧ plan.target = target.toPath ∧
      files.entryAt? checked.source = some (.file octets) ∧
      MovedTree files (moveClass files settings request).files settings base plan
        checked.source target octets := by
  rcases exists_real_run real succeeded with
    ⟨base, checked, plan, octets, -, moved, plans, -, -, held, -, relocated, entries⟩
  rcases plans.spelled with ⟨baseSpelled, sourceSpelled, targetSpelled⟩
  exact ⟨base, checked, plan, plan.targetBelow base, octets, plans, baseSpelled, sourceSpelled,
    targetSpelled, held, relocated.movedTree held entries⟩

theorem moveClass_tree_sample :
    sampleRequest.preview = false ∧
      (moveClass sampleFiles {} sampleRequest).result = .ok sampleResult ∧
      MovedTree sampleFiles (moveClass sampleFiles {} sampleRequest).files {} (.ofString "/java")
        samplePlan (.ofString "/java/a/A.java") (.ofString "/java/c/C.java")
        (Utf8.encode "package a;\nclass A\n".toList) := by
  refine ⟨rfl, moveClass_sample, ?_⟩
  rcases moveClass_tree rfl moveClass_sample with
    ⟨base, checked, plan, target, octets, plans, -, -, targetSpelled, held, tree⟩
  rcases plans.unique plans_sample with ⟨rfl, rfl, rfl⟩
  cases target_sample targetSpelled
  rw [held_sample] at held
  cases held
  exact tree

end ClassMove
