import ClassMove.Inspect
import ClassMove.Proofs.Move.Preview

/-!
# Moved files are consistent

After a move the class that belongs where the file lies and the class that the file
declares are both the new class, so an inspection of the file finds nothing to complain
about.  The class need not be one that can be imported: if its import lines cannot be
read again, the moved file may lose imports, but never its declarations.
-/

namespace ClassMove

/-! ## Inspecting a file that can be read -/

/-- The problem that prevents an identity. -/
def problemsOf : Except Failure Identity → List String
  | .ok _ => []
  | .error failure => [failure.cause.message]

/-- An identity that is missing for a reason to pass the file over is no failure. -/
theorem identityOrProblem_eq (found : Except Failure Identity)
    (skippable : ∀ failure, found = .error failure → failure.cause.isSkippable = true) :
    identityOrProblem found = .ok (found.toOption, problemsOf found) := by
  cases found with
  | ok identity => rfl
  | error failure =>
    rw [identityOrProblem, if_pos (skippable failure rfl)]
    rfl

/-- An inspection of a file that can be read never fails. -/
theorem inspectBelow_of_read {files : FileSystem} {location : Location} {octets : List UInt8}
    (read : files.read location.toPath = .ok octets) (dialect : Dialect) (base : Location) :
    inspectBelow files dialect base location =
      .ok
        { path := base.displayBelow location
          base := base.display
          dialect
          location? := (Identity.ofLocation base location).toOption.map Identity.name
          contents? :=
            (Identity.ofOctets location.display location octets).toOption.map Identity.name
          imports :=
            ((Identity.ofOctets location.display location octets).toOption.map
              Identity.imports).getD []
          consistent? := agreement? dialect (Identity.ofLocation base location).toOption
            (Identity.ofOctets location.display location octets).toOption
          problems := problemsOf (Identity.ofLocation base location) ++
            problemsOf (Identity.ofOctets location.display location octets) } := by
  have located := @Resolver.resolve_fst_of_miss { base } .location location rfl files
  have untouched := Resolver.byContents_resolve_location { base } files location
  rcases first : Resolver.resolve { base } files .location .cached location with ⟨result, resolver⟩
  rw [first] at located untouched
  -- What is remembered of the location is no class by contents.
  have miss : (resolver.remembered .contents).get? location = none := by
    rw [Resolver.remembered, show resolver.byContents = [] from untouched]
    rfl
  have declared := (Resolver.resolve_fst_of_miss miss files).trans
    (Resolver.derive_contents read resolver)
  have fromLocation := identityOrProblem_eq (Identity.ofLocation base location)
    fun _ failed => Identity.isSkippable_of_ofLocation failed
  have fromContents := identityOrProblem_eq (Identity.ofOctets location.display location octets)
    fun _ failed => (Identity.isSkippable_of_ofOctets failed).1
  simp only [inspectBelow, first, show result = Identity.ofLocation base location from located,
    declared, fromLocation, fromContents]

/-- An inspection of a file that has both identities compares them and has no problem. -/
theorem inspectBelow_eq {files : FileSystem} {dialect : Dialect} {base location : Location}
    {located declared : Identity} (byLocation : Identity.ofLocation base location = .ok located)
    (byContents : Identity.ofContents files location.toPath = .ok declared) :
    inspectBelow files dialect base location =
      .ok
        { path := base.displayBelow location
          base := base.display
          dialect
          location? := some located.name
          contents? := some declared.name
          imports := declared.imports
          consistent? := some (identitiesAgree dialect located.name declared.name)
          problems := [] } := by
  rcases Identity.ofContents_eq_ok_iff.1 byContents with ⟨octets, read, -⟩
  have declares : Identity.ofOctets location.display location octets = .ok declared :=
    (Resolver.derive_contents read { base }).symm.trans byContents
  rw [inspectBelow_of_read read, byLocation, declares]
  rfl

theorem inspectFile_toPath {files : FileSystem} {base location : Location} {octets : List UInt8}
    {dialect : Dialect} (reached : files.reach? location = some (.file octets))
    (known : Dialect.ofLocation? location = some dialect)
    (isDir : files.isDir base.toPath = true) (settings : Settings) :
    inspectFile files settings (some base.toPath) location.toPath =
      (inspectBelow files dialect base location, []) := by
  simp only [inspectFile, inspectFileTelling, FileSystem.locationOf, Location.ofPath_toPath,
    reached, known, resolveBaseTelling, isDir, ↓reduceIte]

/-! ## The moved file -/

/-- The walk takes no declaration from a file. -/
theorem exists_declaration?_afterWalk {octets : List UInt8} {name : ClassName}
    {imports : List ClassName} (found : declaration? octets = some (name, imports))
    (settings : Settings) (base location : Location) (plan : MovePlan) :
    ∃ imports', declaration? (afterWalk settings base plan location octets) =
      some (name, imports') := by
  rw [afterWalk]
  split
  · exact exists_declaration?_reimported plan.old plan.new found
  · exact ⟨imports, found⟩

theorem MovePlan.isAbove_targetBelow (plan : MovePlan) (base : Location) :
    base.isAbove (plan.targetBelow base) = true :=
  Location.isAbove_iff.2 ⟨_, plan.new.relativeNames_ne_nil plan.dialect, rfl⟩

/-- After a move that ends well, the file at the target declares the new class and lies where the
new class belongs, so that an inspection finds it consistent and has no problem with it. -/
theorem moveClass_consistent {files : FileSystem} {settings : Settings} {request : MoveRequest}
    {result : MoveResult} (real : request.preview = false)
    (succeeded : (moveClass files settings request).result = .ok result) :
    ∃ base checked plan target imports,
      Plans files settings request base checked plan ∧ plan.base = base.toPath ∧
      plan.target = target.toPath ∧ plan.new = result.new ∧
      Identity.ofContents (moveClass files settings request).files plan.target =
        .ok ⟨target, plan.new, imports, .contents⟩ ∧
      Identity.ofLocation base target = .ok ⟨target, plan.new, [], .location⟩ ∧
      ∀ defaults, inspectFile (moveClass files settings request).files defaults (some plan.base)
          plan.target =
        (.ok
          { path := base.displayBelow target
            base := base.display
            dialect := plan.dialect
            location? := some plan.new
            contents? := some plan.new
            imports
            consistent? := some true
            problems := [] }, []) := by
  rcases exists_real_run real succeeded with
    ⟨base, checked, plan, octets, old, moved, plans, -, new, held, found, relocated, entries⟩
  rcases plans.spelled with ⟨baseSpelled, -, targetSpelled⟩
  generalize (moveClass files settings request).files = final at entries ⊢
  rcases exists_declaration?_afterWalk (declaration?_declared found plan.new) settings base
    (plan.targetBelow base) plan with ⟨imports, declares⟩
  have arrived := entries (plan.targetBelow base)
  rw [relocated.entryAt?_target] at arrived
  have rooted : final.entryAt? .root = some .dir := by
    rw [entries, plans.rooted_moved relocated]
    rfl
  have baseDir : final.entryAt? base = some .dir :=
    FileSystem.entryAt?_eq_dir_of_isAbove arrived (plan.isAbove_targetBelow base)
  have opened := FileSystem.read_toPath_eq_ok_iff.2 ⟨relocated.accepted, rooted, arrived⟩
  have byContents : Identity.ofContents final (plan.targetBelow base).toPath =
      .ok ⟨plan.targetBelow base, plan.new, imports, .contents⟩ :=
    Identity.ofContents_eq_ok_iff.2 ⟨_, opened, declares, rfl, rfl⟩
  have byLocation := plan.ofLocation_targetBelow base
  refine ⟨base, checked, plan, plan.targetBelow base, imports, plans, baseSpelled, targetSpelled,
    new.symm, by rw [targetSpelled, byContents], byLocation, ?_⟩
  intro defaults
  have reached := FileSystem.reach?_eq_some_iff.2
    ⟨relocated.accepted, FileSystem.entryAt?_eq_file_iff.1 arrived⟩
  have isDir := FileSystem.isDir_toPath rooted (Planned.accept_base relocated) baseDir
  rw [baseSpelled, targetSpelled,
    inspectFile_toPath reached (plan.ofLocation?_targetBelow base) isDir,
    inspectBelow_eq byLocation byContents, identitiesAgree_self]

/-- A class that imports itself goes to a package that begins with a digit, under a name that is
not capitalised.  Its import of itself is updated to a line that is no import. -/
def unimportableRequest : MoveRequest :=
  { sampleRequest with destination := .ofString "/java/1b/foo.java" }

def unimportablePlan : MovePlan :=
  { samplePlan with
    target := .ofString "/java/1b/foo.java"
    new := ⟨"1b".toList, "foo".toList, by decide, by decide⟩ }

def unimportableResult : MoveResult :=
  { sampleResult with
    new := unimportablePlan.new
    newPath := "1b/foo.java"
    updatedFiles := [⟨"1b/foo.java", 1⟩] }

theorem moveClass_consistent_unimportable :
    unimportableRequest.preview = false ∧
      (moveClass selfImportingFiles {} unimportableRequest).result = .ok unimportableResult ∧
      ∃ inspection, inspectFile (moveClass selfImportingFiles {} unimportableRequest).files {}
          (some unimportablePlan.base) unimportablePlan.target = (.ok inspection, []) ∧
        inspection.location? = some unimportablePlan.new ∧
        inspection.contents? = some unimportablePlan.new ∧
        inspection.consistent? = some true ∧ inspection.problems = [] := by
  have ended : (moveClass selfImportingFiles {} unimportableRequest).result =
      .ok unimportableResult := by decide +kernel
  have planned : Plans selfImportingFiles {} unimportableRequest (.ofString "/java")
      { sampleChecked with destination := .ofString "/java/1b/foo.java" } unimportablePlan := by
    refine ⟨⟨?_, ?_⟩, ?_⟩
    all_goals decide +kernel
  refine ⟨rfl, ended, ?_⟩
  rcases moveClass_consistent rfl ended with
    ⟨base, checked, plan, target, imports, plans, -, -, -, -, -, inspected⟩
  rcases plans.unique planned with ⟨rfl, rfl, rfl⟩
  exact ⟨_, inspected {}, rfl, rfl, rfl, rfl⟩

end ClassMove
