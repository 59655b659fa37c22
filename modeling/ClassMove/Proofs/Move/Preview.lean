import ClassMove.Proofs.Move.Tree

/-!
# Previews

A preview walks the tree as it is and leaves the source out; a real run walks the tree
with the file moved.  The two walks come to the same files in the same order, except
that only the real one comes to the moved file, and that the preview may come to a file
that the real run has replaced.  So the two tell the same exactly when they tell the
same of the place that the file goes to.
-/

namespace ClassMove

/-! ## Lists that are told one by one -/

theorem flatMap_filter_eq {α β : Type} (p : α → Bool) (f : α → List β) (list : List α) :
    (list.filter p).flatMap f = list.flatMap fun item => if p item then f item else [] := by
  induction list with
  | nil => rfl
  | cons item list ih =>
    rw [List.filter_cons, List.flatMap_cons]
    split
    · rw [List.flatMap_cons, ih]
    · rw [ih, List.nil_append]

/-- Lists told of different items are the same exactly when the same is told of the one item on
which two tellers may differ. -/
theorem flatMap_eq_iff {α β : Type} {list : List α} (distinct : list.Nodup) {item : α}
    {f g : α → List β} (agree : ∀ other ∈ list, other ≠ item → f other = g other) :
    list.flatMap f = list.flatMap g ↔ (item ∈ list → f item = g item) := by
  by_cases member : item ∈ list
  · rcases List.append_of_mem member with ⟨front, back, rfl⟩
    rw [List.nodup_append, List.nodup_cons] at distinct
    -- What is told before and after the item is the same, and cancels.
    have inFront : front.flatMap f = front.flatMap g := by
      apply List.flatMap_congr
      intro other inside
      apply agree other (List.mem_append_left _ inside)
      rintro rfl
      exact distinct.2.2 other inside other (List.mem_cons_self ..) rfl
    have inBack : back.flatMap f = back.flatMap g := by
      apply List.flatMap_congr
      intro other inside
      apply agree other (List.mem_append_right _ (List.mem_cons_of_mem _ inside))
      rintro rfl
      exact distinct.2.1.1 inside
    simp only [List.flatMap_append, List.flatMap_cons, inFront, inBack, List.append_cancel_left_eq,
      List.append_cancel_right_eq, member, true_implies]
  · have same : list.flatMap f = list.flatMap g := by
      apply List.flatMap_congr
      intro other inside
      apply agree other inside
      rintro rfl
      exact member inside
    simp [same, member]

/-! ## The two walks -/

theorem mem_visitedLocations_preview {files : FileSystem} {settings : Settings}
    {base source location : Location} :
    location ∈ visitedLocations files settings base source true ↔
      location ≠ source ∧ (∃ content, files.entryAt? location = some (.file content)) ∧
        isSearched settings base location = true := by
  rw [visitedLocations, List.mem_filter, FileSystem.mem_searched]
  simp [and_comm]

/-- What a preview tells of a place: it leaves the source out. -/
def FileSystem.previewedAt (files : FileSystem) (plan : MovePlan)
    (base source location : Location) : List Event :=
  if location = source then [] else files.eventsAt plan base location

theorem FileSystem.eventsAt_eq_nil {files : FileSystem} {location : Location}
    (noFile : ¬ ∃ content, files.entryAt? location = some (.file content)) (plan : MovePlan)
    (base : Location) : files.eventsAt plan base location = [] := by
  rw [eventsAt]
  split
  · next content there => exact absurd ⟨content, there⟩ noFile
  · rfl

theorem FileSystem.previewedAt_eq {files : FileSystem} {settings : Settings}
    {base location : Location} (inside : isSearched settings base location = true)
    (plan : MovePlan) (source : Location) :
    files.previewedAt plan base source location =
      if location ∈ visitedLocations files settings base source true then
        files.eventsAt plan base location
      else [] := by
  rw [previewedAt]
  by_cases atSource : location = source
  · rw [if_pos atSource, if_neg]
    intro member
    exact (mem_visitedLocations_preview.1 member).1 atSource
  · rw [if_neg atSource]
    split
    · rfl
    · next absent =>
      apply eventsAt_eq_nil
      intro there
      exact absent (mem_visitedLocations_preview.2 ⟨atSource, there, inside⟩)

namespace Relocated

variable {files moved : FileSystem} {source target : Location} {octets : List UInt8}

/-- The preview comes to the files that the real run comes to, in the same order, except that it
may not come to the target. -/
theorem visitedLocations_eq_filter (relocated : Relocated files moved source target octets)
    (settings : Settings) (base : Location) :
    visitedLocations files settings base source true =
      (moved.searched settings base).filter fun location =>
        decide (location ∈ visitedLocations files settings base source true) := by
  have sorted : (visitedLocations files settings base source true).Pairwise Location.ComesBefore :=
    (files.pairwise_searched settings base).filter _
  -- Both lists are sorted, so it is enough that they have the same members.
  refine sorted.eq_of_mem_iff ((moved.pairwise_searched settings base).filter _) ?_
  intro location
  rw [List.mem_filter, decide_eq_true_eq]
  constructor
  · intro member
    refine ⟨?_, member⟩
    rcases mem_visitedLocations_preview.1 member with ⟨notSource, ⟨content, there⟩, inside⟩
    rw [FileSystem.mem_searched]
    refine ⟨?_, inside⟩
    by_cases atTarget : location = target
    · rw [atTarget]
      exact ⟨octets, relocated.entryAt?_target⟩
    · exact ⟨content, (relocated.entryAt?_eq_file_iff atTarget).2 ⟨notSource, there⟩⟩
  · exact fun both => both.2

/-- So the preview tells what it would tell of the files of the moved tree. -/
theorem flatMap_visitedLocations (relocated : Relocated files moved source target octets)
    (settings : Settings) (base : Location) (plan : MovePlan) :
    (visitedLocations files settings base source true).flatMap (files.eventsAt plan base) =
      (moved.searched settings base).flatMap (files.previewedAt plan base source) := by
  rw [relocated.visitedLocations_eq_filter settings base, flatMap_filter_eq]
  apply List.flatMap_congr
  intro location member
  rw [FileSystem.previewedAt_eq (FileSystem.mem_searched.1 member).2]
  simp only [decide_eq_true_eq]

/-- The two walks tell the same exactly when they tell the same of the target. -/
theorem events_eq_iff (relocated : Relocated files moved source target octets)
    (settings : Settings) (base : Location) (plan : MovePlan) :
    (visitedLocations files settings base source true).flatMap (files.eventsAt plan base) =
        (moved.searched settings base).flatMap (moved.eventsAt plan base) ↔
      (isSearched settings base target = true →
        files.previewedAt plan base source target = moved.eventsAt plan base target) := by
  have agree : ∀ location ∈ moved.searched settings base, location ≠ target →
      files.previewedAt plan base source location = moved.eventsAt plan base location := by
    intro location member elsewhere
    rcases (FileSystem.mem_searched.1 member).1 with ⟨content, there⟩
    rcases (relocated.entryAt?_eq_file_iff elsewhere).1 there with ⟨notSource, before⟩
    rw [FileSystem.previewedAt, if_neg notSource, FileSystem.eventsAt, FileSystem.eventsAt, there,
      before]
  have comes : target ∈ moved.searched settings base ↔ isSearched settings base target = true := by
    simp [FileSystem.mem_searched, relocated.entryAt?_target]
  rw [relocated.flatMap_visitedLocations,
    flatMap_eq_iff (moved.pairwise_searched settings base).nodup agree, comes]

end Relocated

/-! ## What is told of the moved file -/

/-- What a real run tells of the file that was moved, which held `octets` and now lies at
`location`: that its imports were updated, if it imports its own class. -/
def movedFileEvents (plan : MovePlan) (base location : Location) (octets : List UInt8) :
    List Event :=
  if importsClass plan.old octets then
    [updateEvent plan (base.displayBelow location)
      (Revision.ofOctets (reimport plan.old plan.new) () (declared plan.new octets)).linesChanged]
  else []

theorem nil_eq_movedFileEvents {plan : MovePlan} {base location : Location}
    {octets : List UInt8} :
    [] = movedFileEvents plan base location octets ↔ importsClass plan.old octets = false := by
  rw [movedFileEvents]
  cases importsClass plan.old octets with
  | true => simp
  | false => simp

/-- The moved file lies where its new class belongs, so of it only its imports are told. -/
theorem eventsAt_target {moved : FileSystem} {plan : MovePlan} {base : Location}
    {octets : List UInt8} {imports : List ClassName}
    (there : moved.entryAt? (plan.targetBelow base) = some (.file (declared plan.new octets)))
    (declares : declaration? octets = some (plan.old, imports)) :
    moved.eventsAt plan base (plan.targetBelow base) =
      movedFileEvents plan base (plan.targetBelow base) octets := by
  have identified : ∀ shown, Identity.ofOctets shown (plan.targetBelow base)
      (declared plan.new octets) = .ok ⟨plan.targetBelow base, plan.new, imports, .contents⟩ := by
    intro shown
    exact Identity.ofOctets_eq_ok_iff.2 ⟨declaration?_declared declares plan.new, rfl, rfl⟩
  have agreeing : mismatchEvents base (plan.targetBelow base) plan.new = [] := by
    rw [mismatchEvents, plan.ofLocation_targetBelow base]
    cases Dialect.ofLocation? (plan.targetBelow base) with
    | none => rfl
    | some dialect => simp [identitiesAgree_self]
  simp [FileSystem.eventsAt, there, visitEvents, identified, agreeing, Identity.importsClass,
    movedFileEvents, importsClass, declares]

/-! ## Two runs of one request -/

/-- What is told while the imports follow, all in all. -/
def walkEvents (files : FileSystem) (settings : Settings) (plan : MovePlan)
    (base source : Location) (preview : Bool) : List Event :=
  if plan.old = plan.new then []
  else (visitedLocations files settings base source preview).flatMap (files.eventsAt plan base)

theorem Relocated.walkEvents_eq_iff {files moved : FileSystem} {settings : Settings}
    {plan : MovePlan} {base source : Location} {octets : List UInt8} {imports : List ClassName}
    (relocated : Relocated files moved source (plan.targetBelow base) (declared plan.new octets))
    (declares : declaration? octets = some (plan.old, imports)) :
    walkEvents files settings plan base source true =
        walkEvents moved settings plan base source false ↔
      (plan.old ≠ plan.new → isSearched settings base (plan.targetBelow base) = true →
        files.previewedAt plan base source (plan.targetBelow base) =
          movedFileEvents plan base (plan.targetBelow base) octets) := by
  rw [walkEvents, walkEvents]
  by_cases renamed : plan.old = plan.new
  · simp [renamed]
  · rw [if_neg renamed, if_neg renamed, visitedLocations_real, relocated.events_eq_iff,
      eventsAt_target relocated.entryAt?_target declares]
    simp [renamed]

theorem told_of_propagate {plan : MovePlan} {settings : Settings} {preview : Bool}
    {base source : Location} {before after : Progress} (baseSpelled : plan.base = base.toPath)
    (sourceSpelled : plan.source = source.toPath)
    (rooted : before.files.entryAt? .root = some .dir)
    (accepted : FileSystem.accept base.toPath = .ok ()) (resolves : before.resolver.base = base)
    (done : propagate plan settings preview before = (.ok (), after)) :
    after.events = before.events ++ walkEvents before.files settings plan base source preview ∧
      after.updated = before.updated ++
        updatedFiles (walkEvents before.files settings plan base source preview) := by
  by_cases renamed : plan.old = plan.new
  · rw [propagate, if_pos renamed] at done
    cases (Prod.mk.inj done).2
    simp [walkEvents, renamed, updatedFiles]
  · have visits := visits_propagate baseSpelled sourceSpelled rooted accepted resolves renamed done
    rw [walkEvents, if_neg renamed]
    exact ⟨visits.told, visits.updated⟩

/-- Do two runs tell the same, with results that differ only in whether they were applied? -/
def MoveOutcome.ReportsLike (first second : MoveOutcome) : Prop :=
  first.events = second.events ∧
    ∃ shown result, first.result = .ok shown ∧ second.result = .ok result ∧
      { shown with applied := result.applied } = result

/-- Two runs of one request, taken apart. -/
theorem exists_both_runs {files : FileSystem} {settings : Settings} {request : MoveRequest}
    {shown result : MoveResult}
    (previewed : (moveClass files settings { request with preview := true }).result = .ok shown)
    (carried : (moveClass files settings { request with preview := false }).result = .ok result) :
    ∃ base checked plan octets imports moved,
      Plans files settings request base checked plan ∧
      files.entryAt? checked.source = some (.file octets) ∧
      declaration? octets = some (plan.old, imports) ∧
      Relocated files moved checked.source (plan.targetBelow base) (declared plan.new octets) ∧
      ((moveClass files settings { request with preview := true }).ReportsLike
          (moveClass files settings { request with preview := false }) ↔
        walkEvents files settings plan base checked.source true =
          walkEvents moved settings plan base checked.source false) := by
  rcases moveClass_eq_ok previewed with
    ⟨base, checked, plan, resolver, event, same, shownProgress, plans, resolves, executed, followed,
      outcome⟩
  rcases moveClass_eq_ok carried with
    ⟨base', checked', plan', resolver', event', moved, progress, plans', resolves', executed',
      followed', outcome'⟩
  -- Neither the checks nor the plan ask whether a run is a preview.
  have both : Plans files settings request base checked plan :=
    ⟨⟨plans.passed, plans.planned⟩, plans.based⟩
  have both' : Plans files settings request base' checked' plan' :=
    ⟨⟨plans'.passed, plans'.planned⟩, plans'.based⟩
  rcases both.unique both' with ⟨rfl, rfl, rfl⟩
  rcases both.spelled with ⟨baseSpelled, sourceSpelled, -⟩
  rcases both.exists_declaration with ⟨octets, imports, held, read, declares⟩
  have relocated := both.relocated_of_executeMove read executed'
  have accepted : FileSystem.accept base.toPath = .ok () := Planned.accept_base relocated
  cases both.executeMove_preview executed
  have first : event = event' := by
    rw [executeMove_event executed, executeMove_event executed', both.movedEvent_eq,
      both.movedEvent_eq]
  subst first
  rcases told_of_propagate baseSpelled sourceSpelled both.rooted accepted resolves followed with
    ⟨told, updated⟩
  rcases told_of_propagate baseSpelled sourceSpelled (both.rooted_moved relocated) accepted
    resolves' followed' with ⟨told', updated'⟩
  refine ⟨base, checked, plan, octets, imports, moved, both, held, declares, relocated, ?_⟩
  rw [outcome, outcome', MoveOutcome.ReportsLike, told, told']
  constructor
  · rintro ⟨equal, -⟩
    exact List.append_cancel_left equal
  · intro equal
    refine ⟨congrArg ([event] ++ ·) equal, _, _, rfl, rfl, ?_⟩
    simp only [updated, updated', equal]

/-- A preview and the real run report alike exactly when they tell the same of the place that the
file goes to: a preview tells of the file that is there before the move, unless that is the source,
and a real run tells that the imports of the moved file were updated, if it imports its own class.
So where no other file is at the target, they report alike exactly when the class keeps its name,
the target is not searched, or the file does not import its own class. -/
theorem moveClass_preview_iff {files : FileSystem} {settings : Settings} {request : MoveRequest}
    {shown result : MoveResult}
    (previewed : (moveClass files settings { request with preview := true }).result = .ok shown)
    (carried : (moveClass files settings { request with preview := false }).result = .ok result) :
    ∃ base checked plan target octets,
      Plans files settings request base checked plan ∧ plan.base = base.toPath ∧
      plan.source = checked.source.toPath ∧ plan.target = target.toPath ∧
      files.entryAt? checked.source = some (.file octets) ∧
      ((moveClass files settings { request with preview := true }).ReportsLike
          (moveClass files settings { request with preview := false }) ↔
        (plan.old ≠ plan.new → isSearched settings base target = true →
          files.previewedAt plan base checked.source target =
            movedFileEvents plan base target octets)) ∧
      ((∀ content, files.entryAt? target = some (.file content) → target = checked.source) →
        ((moveClass files settings { request with preview := true }).ReportsLike
            (moveClass files settings { request with preview := false }) ↔
          plan.old = plan.new ∨ isSearched settings base target = false ∨
            importsClass plan.old octets = false)) := by
  rcases exists_both_runs previewed carried with
    ⟨base, checked, plan, octets, imports, moved, plans, held, declares, relocated, report⟩
  rcases plans.spelled with ⟨baseSpelled, sourceSpelled, targetSpelled⟩
  rw [relocated.walkEvents_eq_iff declares] at report
  refine ⟨base, checked, plan, plan.targetBelow base, octets, plans, baseSpelled, sourceSpelled,
    targetSpelled, held, report, ?_⟩
  intro alone
  have nothing : files.previewedAt plan base checked.source (plan.targetBelow base) = [] := by
    rw [FileSystem.previewedAt]
    split
    · rfl
    · next elsewhere =>
      apply FileSystem.eventsAt_eq_nil
      rintro ⟨content, there⟩
      exact elsewhere (alone content there)
  rw [report, nothing, nil_eq_movedFileEvents]
  by_cases renamed : plan.old = plan.new
  · simp [renamed]
  · cases inside : isSearched settings base (plan.targetBelow base) with
    | true => simp [renamed]
    | false => simp

theorem moveClass_preview_sample :
    (moveClass sampleFiles {} { sampleRequest with preview := true }).result =
        .ok { sampleResult with applied := false } ∧
      (moveClass sampleFiles {} { sampleRequest with preview := false }).result =
        .ok sampleResult ∧
      (moveClass sampleFiles {} { sampleRequest with preview := true }).ReportsLike
        (moveClass sampleFiles {} { sampleRequest with preview := false }) := by
  have previewed : (moveClass sampleFiles {} { sampleRequest with preview := true }).result =
      .ok { sampleResult with applied := false } := by decide +kernel
  refine ⟨previewed, moveClass_sample, ?_⟩
  rcases moveClass_preview_iff previewed moveClass_sample with
    ⟨base, checked, plan, target, octets, plans, -, -, targetSpelled, held, -, alike⟩
  rcases plans.unique plans_sample with ⟨rfl, rfl, rfl⟩
  cases target_sample targetSpelled
  have free : sampleFiles.entryAt? (.ofString "/java/c/C.java") = none := by decide +kernel
  rw [held_sample] at held
  cases held
  refine (alike ?_).2 (.inr (.inr (by decide +kernel)))
  intro content there
  rw [free] at there
  cases there

/-- A class that imports itself: only the real run tells of its import. -/
def selfImportingFiles : FileSystem :=
  .ofFiles [("/java/a/A.java", "package a;\nimport a.A;\nclass A\n")]

theorem moveClass_preview_differs :
    (moveClass selfImportingFiles {} { sampleRequest with preview := true }).result =
        .ok { sampleResult with applied := false, updatedFiles := [] } ∧
      (moveClass selfImportingFiles {} { sampleRequest with preview := false }).result =
        .ok { sampleResult with updatedFiles := [⟨"c/C.java", 1⟩] } ∧
      (moveClass selfImportingFiles {} { sampleRequest with preview := true }).events ≠
        (moveClass selfImportingFiles {} { sampleRequest with preview := false }).events := by
  refine ⟨?_, ?_, ?_⟩
  all_goals decide +kernel

end ClassMove
