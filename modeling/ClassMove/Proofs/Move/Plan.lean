import ClassMove.Move.Run
import ClassMove.Proofs.Files.Place
import ClassMove.Proofs.Identity.Resolver
import ClassMove.Proofs.Path.Relative
import ClassMove.Proofs.Source.Declaration

/-!
# Plans

What is known once a request was checked and planned: the source is a source file that
declares the old class, nothing is found at the destination, and the target is where
the class of the destination belongs.
-/

namespace ClassMove

/-- The request passes its checks, and is planned below the base. -/
structure Planned (files : FileSystem) (request : MoveRequest) (base : Location)
    (checked : CheckedMove) (plan : MovePlan) : Prop where
  passed : checkMove files request = .ok checked
  planned : (planMove files checked { base }).1 = .ok plan

/-- The request is planned below the base that is given or found for it. -/
structure Plans (files : FileSystem) (settings : Settings) (request : MoveRequest)
    (base : Location) (checked : CheckedMove) (plan : MovePlan) : Prop
    extends Planned files request base checked plan where
  based : (resolveBase files settings request.baseDir? checked.source.toPath).1 = .ok base

theorem Plans.unique {files : FileSystem} {settings : Settings} {request : MoveRequest}
    {base base' : Location} {checked checked' : CheckedMove} {plan plan' : MovePlan}
    (plans : Plans files settings request base checked plan)
    (plans' : Plans files settings request base' checked' plan') :
    base = base' ∧ checked = checked' ∧ plan = plan' := by
  cases Except.ok.inj (plans.passed.symm.trans plans'.passed)
  cases Except.ok.inj (plans.based.symm.trans plans'.based)
  cases Except.ok.inj (plans.planned.symm.trans plans'.planned)
  exact ⟨rfl, rfl, rfl⟩

/-- Where the plan moves the file to. -/
def MovePlan.targetBelow (plan : MovePlan) (base : Location) : Location :=
  base.descend (plan.new.relativeNames plan.dialect)

/-! ## Checking -/

theorem checkMove_eq_ok {files : FileSystem} {request : MoveRequest} {checked : CheckedMove}
    (passed : checkMove files request = .ok checked) :
    (∃ octets, files.reach? checked.source = some (.file octets)) ∧
      Dialect.ofLocation? checked.source = some checked.dialect ∧
      files.reach? checked.destination = none ∧
      checked.destination.extension? = some checked.dialect.extension := by
  simp only [checkMove] at passed
  split at passed
  · cases passed
  · split at passed
    · cases passed
    · cases passed
    · next octets reached =>
      split at passed
      · cases passed
      · next dialect known =>
        split at passed
        · cases passed
        · next free =>
          split at passed
          · next extended =>
            cases Except.ok.inj passed
            exact ⟨⟨octets, reached⟩, known, by simpa using free, extended⟩
          · cases passed

/-! ## Planning -/

/-- Nothing is remembered when a plan is made, so the classes are derived from the files as they
are. -/
theorem planMove_eq_ok {files : FileSystem} {checked : CheckedMove} {base : Location}
    {plan : MovePlan} (planned : (planMove files checked { base }).1 = .ok plan) :
    ∃ old new, Identity.ofContents files checked.source.toPath = .ok old ∧
      Identity.ofLocation base checked.destination = .ok new ∧
      plan = { base := base.toPath
               source := checked.source.toPath
               target := (base.descend (new.name.relativeNames checked.dialect)).toPath
               dialect := checked.dialect
               old := old.name
               new := new.name } ∧
      (planMove files checked { base }).2.base = base := by
  have first := @Resolver.resolve_of_miss { base } .contents checked.source rfl files
  cases read : Identity.ofContents files checked.source.toPath with
  | error failure => simp [planMove, first, Resolver.derive, read] at planned
  | ok old =>
    rcases Identity.ofContents_eq_ok_iff.1 read with ⟨-, -, -, -, derivation⟩
    -- What is remembered of the source is no class by location.
    have miss : ((Resolver.remember { base } checked.source old).remembered .location).get?
        checked.destination = none := by
      rw [Resolver.remember, derivation]
      rfl
    have base' : (Resolver.remember { base } checked.source old).base = base :=
      Resolver.remember_base ..
    have second := Resolver.resolve_of_miss miss files
    simp only [Resolver.derive, base'] at second
    cases located : Identity.ofLocation base checked.destination with
    | error failure => simp [planMove, first, Resolver.derive, read, second, located] at planned
    | ok new =>
      refine ⟨old, new, rfl, rfl, ?_, ?_⟩
      · simp only [planMove, first, Resolver.derive, read, second, located, Except.ok.injEq,
          Resolver.remember_base, ClassName.toPath_join_relativePath] at planned
        exact planned.symm
      · simp only [planMove, first, Resolver.derive, read, second, located, Resolver.remember_base]

namespace Planned

variable {files : FileSystem} {request : MoveRequest} {base : Location} {checked : CheckedMove}
  {plan : MovePlan}

/-- All paths of a plan are plain spellings. -/
theorem spelled (planned : Planned files request base checked plan) :
    plan.base = base.toPath ∧ plan.source = checked.source.toPath ∧
      plan.target = (plan.targetBelow base).toPath := by
  rcases planMove_eq_ok planned.planned with ⟨old, new, -, -, rfl, -⟩
  exact ⟨rfl, rfl, rfl⟩

/-- The source declares the old class. -/
theorem exists_declaration (planned : Planned files request base checked plan) :
    ∃ octets imports, files.entryAt? checked.source = some (.file octets) ∧
      files.read checked.source.toPath = .ok octets ∧
      declaration? octets = some (plan.old, imports) := by
  rcases planMove_eq_ok planned.planned with ⟨old, new, read, -, rfl, -⟩
  rcases Identity.ofContents_eq_ok_iff.1 read with ⟨octets, opened, found, -, -⟩
  rcases FileSystem.read_toPath_eq_ok_iff.1 opened with ⟨-, -, held⟩
  exact ⟨octets, old.imports, held, opened, found⟩

theorem displayRelative_toPath (current base location : Location) :
    Path.displayRelative current location.toPath base.toPath = base.displayBelow location := by
  rw [Path.displayRelative, Location.ofPath_toPath, Location.ofPath_toPath]

/-- What is told of the move itself. -/
theorem movedEvent_eq (planned : Planned files request base checked plan)
    (current : Location) :
    plan.movedEvent current = .moved plan.old plan.new (base.displayBelow checked.source)
      (base.displayBelow (plan.targetBelow base)) := by
  rcases planned.spelled with ⟨baseSpelled, sourceSpelled, targetSpelled⟩
  rw [MovePlan.movedEvent, sourceSpelled, targetSpelled, baseSpelled, displayRelative_toPath,
    displayRelative_toPath]

end Planned

/-- The class that belongs where a file goes to is the new one. -/
theorem MovePlan.ofLocation_targetBelow (plan : MovePlan) (base : Location) :
    Identity.ofLocation base (plan.targetBelow base) =
      .ok ⟨plan.targetBelow base, plan.new, [], .location⟩ :=
  Identity.ofLocation_relativeNames base plan.new plan.dialect

/-- The file goes to a file name of its dialect. -/
theorem MovePlan.ofLocation?_targetBelow (plan : MovePlan) (base : Location) :
    Dialect.ofLocation? (plan.targetBelow base) = some plan.dialect := by
  rcases plan.new.exists_relativeNames plan.dialect with ⟨names, fileName, same, -, encoded⟩
  have extension := FileName.extension?_of_octets plan.new.simple_ne_nil
    (ClassName.extension_free plan.dialect).1 encoded
  have last : (plan.targetBelow base).fileName? = some fileName := by
    simp [MovePlan.targetBelow, same, Location.descend, Location.fileName?]
  simp [Dialect.ofLocation?, last, Dialect.ofFileName?, extension]

/-! ## Running -/

theorem executeMove_event {files moved : FileSystem} {plan : MovePlan} {preview : Bool}
    {event : Event} (done : executeMove files plan preview = (.ok event, moved)) :
    event = plan.movedEvent moved.current := by
  simp only [executeMove] at done
  split at done
  · cases done
  · split at done
    · cases done
    · split at done
      · cases done
        rfl
      · split at done
        · cases done
        · cases done
          rfl

/-- The events of a move are those of finding the base, and then those of the plan. -/
theorem moveClass_eq (files : FileSystem) (settings : Settings) (request : MoveRequest) :
    moveClass files settings request =
      match checkMove files request with
      | .error failure => ⟨.error failure, files, []⟩
      | .ok checked =>
        match resolveBase files settings request.baseDir? checked.source.toPath with
        | (.error failure, events) => ⟨.error failure, files, events⟩
        | (.ok base, events) =>
          match planMove files checked { base } with
          | (.error failure, _) => ⟨.error failure, files, events⟩
          | (.ok plan, resolver) =>
            runPlan events settings request.preview plan files resolver := by
  simp only [moveClass, moveClassTelling, resolveBase, hear_status, ite_self]
  cases checkMove files request with
  | error failure => rfl
  | ok checked =>
    rcases based : resolveBaseTelling ([] : List Event) files settings request.baseDir?
      checked.source.toPath with ⟨failure | base, events⟩
    · simp only [based]
    · rcases planned : planMove files checked { base } with ⟨failure | plan, resolver⟩ <;>
        simp only [based, planned]

/-- A base that is found is no event. -/
theorem events_of_resolveBase_eq_ok {files : FileSystem} {settings : Settings}
    {explicit? : Option Path} {source : Path} {base : Location} {events : List Event}
    (found : resolveBase files settings explicit? source = (.ok base, events)) : events = [] := by
  simp only [resolveBase, resolveBaseTelling, hear_status] at found
  grind

/-- A move that ends well was planned, carried out and followed by the imports. -/
theorem moveClass_eq_ok {files : FileSystem} {settings : Settings} {request : MoveRequest}
    {result : MoveResult} (succeeded : (moveClass files settings request).result = .ok result) :
    ∃ base checked plan resolver event moved progress,
      Plans files settings request base checked plan ∧ resolver.base = base ∧
      executeMove files plan request.preview = (.ok event, moved) ∧
      propagate plan settings request.preview { files := moved, resolver, events := [event] } =
        (.ok (), progress) ∧
      moveClass files settings request =
        ⟨.ok
          { old := plan.old
            new := plan.new
            oldPath := base.displayBelow checked.source
            newPath := base.displayBelow (plan.targetBelow base)
            base := plan.base.display
            applied := !request.preview
            updatedFiles := progress.updated }, progress.files, progress.events⟩ := by
  cases passed : checkMove files request with
  | error failure => simp [moveClass_eq, passed] at succeeded
  | ok checked =>
    rcases based : resolveBase files settings request.baseDir? checked.source.toPath with
      ⟨baseResult, events⟩
    cases baseResult with
    | error failure => simp [moveClass_eq, passed, based] at succeeded
    | ok base =>
      cases events_of_resolveBase_eq_ok based
      rcases planned : planMove files checked { base } with ⟨planResult, resolver⟩
      cases planResult with
      | error failure => simp [moveClass_eq, passed, based, planned] at succeeded
      | ok plan =>
        have plans : Plans files settings request base checked plan :=
          ⟨⟨passed, by rw [planned]⟩, by rw [based]⟩
        have resolves : resolver.base = base := by
          rcases planMove_eq_ok plans.planned with ⟨-, -, -, -, -, resolves⟩
          rwa [planned] at resolves
        have run : moveClass files settings request =
            runPlan [] settings request.preview plan files resolver := by
          simp [moveClass_eq, passed, based, planned]
        rw [run, runPlan] at succeeded
        rcases executed : executeMove files plan request.preview with ⟨eventResult, moved⟩
        cases eventResult with
        | error failure =>
          rw [executed] at succeeded
          cases succeeded
        | ok event =>
          rcases followed : propagate plan settings request.preview
            { files := moved, resolver, events := [event] } with ⟨last, progress⟩
          cases last with
          | error failure => simp [executed, followed] at succeeded
          | ok _ =>
            refine ⟨base, checked, plan, resolver, event, moved, progress, plans, resolves,
              executed, followed, ?_⟩
            rcases plans.spelled with ⟨baseSpelled, sourceSpelled, targetSpelled⟩
            rw [run, runPlan, executed]
            simp only [hear_event, List.nil_append, followed, sourceSpelled, targetSpelled,
              baseSpelled, Planned.displayRelative_toPath]

/-! ## A small tree

A class that another one imports, and a request to move it.  The results about moves are
run on it. -/

def sampleFiles : FileSystem :=
  .ofFiles [("/java/a/A.java", "package a;\nclass A\n"),
    ("/java/b/B.java", "package b;\nimport a.A;\nclass B\n")]

def sampleRequest : MoveRequest where
  source := .ofString "/java/a/A.java"
  destination := .ofString "/java/c/C.java"

def sampleChecked : CheckedMove where
  source := .ofString "/java/a/A.java"
  destination := .ofString "/java/c/C.java"
  dialect := .java

def samplePlan : MovePlan where
  base := .ofString "/java"
  source := .ofString "/java/a/A.java"
  target := .ofString "/java/c/C.java"
  dialect := .java
  old := ⟨"a".toList, "A".toList, by decide, by decide⟩
  new := ⟨"c".toList, "C".toList, by decide, by decide⟩

def sampleResult : MoveResult where
  old := samplePlan.old
  new := samplePlan.new
  oldPath := "a/A.java"
  newPath := "c/C.java"
  base := "/java"
  applied := true
  updatedFiles := [⟨"b/B.java", 1⟩]

theorem plans_sample :
    Plans sampleFiles {} sampleRequest (.ofString "/java") sampleChecked samplePlan where
  passed := by decide +kernel
  planned := by decide +kernel
  based := by decide +kernel

theorem held_sample :
    sampleFiles.entryAt? sampleChecked.source = some (.ofString "package a;\nclass A\n") := by
  decide +kernel

theorem target_sample {target : Location} (spelled : samplePlan.target = target.toPath) :
    target = .ofString "/java/c/C.java" := by
  apply Location.toPath_injective
  rw [← spelled]
  decide +kernel

theorem moveClass_sample :
    (moveClass sampleFiles {} sampleRequest).result = .ok sampleResult := by
  decide +kernel

end ClassMove
