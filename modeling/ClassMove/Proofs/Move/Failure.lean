import ClassMove.Move.Run
import ClassMove.Proofs.Move.Execute
import ClassMove.Proofs.Move.Visit

/-!
# Moves that fail

Once a file has been written, only the operating system can make a move fail, and a
preview writes nothing at all.  So a tree that a move has changed is the tree of a real
run that ended well or was refused by the operating system.

A move that is refused when its file is to be renamed is not undone.  The source then
lies where it lay, with the declarations of the new class, and directories that the
target was to lie in may have been added.

All this holds of every plan and of every spelling of its paths.
-/

namespace ClassMove

/-! ## Who refuses -/

theorem OsError.code_toFailure (refusal : OsError) (context : String) :
    (refusal.toFailure context).cause.code = "internal.io_error" :=
  rfl

namespace FileSystem

variable {files : FileSystem} {failure : Failure}

section Edit

variable {Memory Answer : Type} {path : Path} {preview : Bool} {editor : Editor Memory}
  {memory : Memory} {answer : Revision × FileSystem → Answer}

/-- An edit fails only if its file cannot be read. -/
theorem code_of_edit
    (failed : (files.edit path preview editor memory).map answer = .error failure) :
    failure.cause.code = "internal.io_error" := by
  cases read : files.read path with
  | ok octets =>
    rw [edit_of_read read] at failed
    cases failed
  | error refusal =>
    rw [edit, read] at failed
    cases Except.error.inj failed
    apply OsError.code_toFailure

/-- An edit that was carried out has read its file. -/
theorem exists_read_of_edit {result : Answer}
    (done : (files.edit path preview editor memory).map answer = .ok result) :
    ∃ octets, files.read path = .ok octets := by
  cases read : files.read path with
  | ok octets => exact ⟨octets, rfl⟩
  | error refusal =>
    rw [edit, read] at done
    cases done

end Edit

theorem code_of_ensureDir {made : FileSystem} {path : Path}
    (failed : files.ensureDir path = (.error failure, made)) :
    failure.cause.code = "internal.io_error" := by
  rw [ensureDir] at failed
  split at failed
  · cases failed
  · cases failed
    apply OsError.code_toFailure

theorem code_of_relocate {final : FileSystem} {source target : Path}
    (failed : files.relocate source target = (.error failure, final)) :
    failure.cause.code = "internal.io_error" := by
  rw [relocate] at failed
  split at failed
  · next stopped =>
    cases failed
    split at stopped
    · cases stopped
    · exact code_of_ensureDir stopped
  · split at failed
    · cases failed
    · cases failed
      apply OsError.code_toFailure

end FileSystem

/-- A file whose identity is missing for another reason than its octets was not read. -/
theorem Identity.code_of_ofContents {files : FileSystem} {path : Path} {failure : Failure}
    (failed : ofContents files path = .error failure)
    (stops : failure.cause.isSkippable = false) : failure.cause.code = "internal.io_error" := by
  rw [ofContents] at failed
  split at failed
  · cases Except.error.inj failed
    apply OsError.code_toFailure
  · rw [(isSkippable_of_ofOctets failed).1] at stops
    cases stops

/-! ## Walks over any files -/

/-- Does the event say that an import could not be updated? -/
def Event.isMissedImport : Event → Bool
  | .warning .importNotUpdated .. => true
  | _ => false

/-- What a walk can come to, whatever files it visits: a preview writes nothing, only the operating
system ends it early, and it never tells that an import could not be updated. -/
structure Walks (preview : Bool) (before : Progress) (result : Except Failure Unit)
    (after : Progress) : Prop where
  previewed : preview = true → after.files = before.files
  refused : ∀ failure, result = .error failure → failure.cause.code = "internal.io_error"
  told : ∃ events, after.events = before.events ++ events ∧
    ∀ event ∈ events, event.isMissedImport = false

namespace Walks

variable {preview : Bool} {before middle after : Progress} {result : Except Failure Unit}

/-- Nothing is written or told. -/
theorem silent (files : after.files = before.files) (events : after.events = before.events) :
    Walks preview before (.ok ()) after where
  previewed _ := files
  refused _ failed := by cases failed
  told := ⟨[], by rw [events, List.append_nil], by simp⟩

/-- The operating system refuses. -/
theorem stopped {failure : Failure} (files : after.files = before.files)
    (events : after.events = before.events)
    (refused : failure.cause.code = "internal.io_error") :
    Walks preview before (.error failure) after where
  previewed _ := files
  refused _ failed := by
    cases Except.error.inj failed
    exact refused
  told := ⟨[], by rw [events, List.append_nil], by simp⟩

/-- One event is told. -/
theorem telling {event : Event} (previewed : preview = true → after.files = before.files)
    (events : after.events = before.events ++ [event]) (other : event.isMissedImport = false) :
    Walks preview before (.ok ()) after where
  previewed := previewed
  refused _ failed := by cases failed
  told := ⟨[event], events, by simpa using other⟩

theorem trans (first : Walks preview before (.ok ()) middle)
    (second : Walks preview middle result after) : Walks preview before result after := by
  rcases first.told with ⟨early, told, quiet⟩
  rcases second.told with ⟨late, told', quiet'⟩
  constructor
  · intro previewing
    rw [second.previewed previewing, first.previewed previewing]
  · exact second.refused
  · refine ⟨early ++ late, by rw [told', told, List.append_assoc], ?_⟩
    intro event member
    rcases List.mem_append.1 member with inEarly | inLate
    · exact quiet event inEarly
    · exact quiet' event inLate

end Walks

/-- Comparing the identities of a file writes nothing and may add a warning of another kind. -/
theorem walks_checkConsistency (preview : Bool) (file : Path) (shown : String)
    (contents : ClassName) (progress : Progress) :
    Walks preview progress (.ok ()) (checkConsistency file shown contents progress) := by
  rw [checkConsistency]
  split
  · exact .silent rfl rfl
  · split
    · exact .silent rfl rfl
    · dsimp only
      split
      · exact .silent rfl rfl
      · exact .telling (fun _ => rfl) rfl rfl

/-- The resolver reads the plain spelling of a path and the editor reads the path as it is spelled,
but both read the same octets. -/
theorem lines_ne_zero_of_importsClass {files after : FileSystem} {path : Path}
    {identity : Identity} {old new : ClassName} {preview : Bool} {lines : Nat}
    (derived : Identity.ofContents files (files.locationOf path).toPath = .ok identity)
    (imports : identity.importsClass old = true)
    (done : files.editImports path old new preview = .ok (lines, after)) : lines ≠ 0 := by
  rcases Identity.ofContents_eq_ok_iff.1 derived with ⟨scanned, readPlain, found, -, -⟩
  rcases FileSystem.exists_read_of_edit done with ⟨octets, read⟩
  have held := FileSystem.entryAt?_of_read read
  rcases FileSystem.read_toPath_eq_ok_iff.1 readPlain with ⟨-, -, heldPlain⟩
  rw [heldPlain] at held
  cases held
  rw [FileSystem.editImports_of_read read] at done
  cases done
  have importing : importsClass old scanned = true := by
    rw [importsClass, found]
    exact imports
  exact Nat.ne_of_gt (linesChanged_pos importing new)

theorem walks_visitFile (plan : MovePlan) (preview : Bool) (file : Path) (before : Progress) :
    Walks preview before (visitFile plan preview file before).1
      (visitFile plan preview file before).2 := by
  have derived := (before.resolver.resolve_fresh before.files .contents
    (before.files.locationOf file)).1
  rcases resolved : before.resolver.resolvePath before.files .contents .fresh file with
    ⟨result, resolver⟩
  rw [← Resolver.resolvePath, resolved] at derived
  simp only [Resolver.derive] at derived
  simp only [visitFile, resolved]
  cases result with
  | error failure =>
    dsimp only
    split
    · exact .telling (fun _ => rfl) rfl rfl
    · next stops =>
      refine .stopped rfl rfl ?_
      exact Identity.code_of_ofContents derived.symm (by simpa using stops)
  | ok identity =>
    have resolving : Walks preview before (.ok ()) { before with resolver } := .silent rfl rfl
    dsimp only
    generalize file.displayRelative before.files.current plan.base = shown
    have checked := resolving.trans
      (walks_checkConsistency preview file shown identity.name { before with resolver })
    -- In a preview or not, the check itself writes nothing.
    have unwritten : (checkConsistency file shown identity.name { before with resolver }).files =
        before.files :=
      (walks_checkConsistency true file shown identity.name { before with resolver }).previewed rfl
    generalize checkConsistency file shown identity.name { before with resolver } = middle at *
    split
    · next imports =>
      apply checked.trans
      rw [unwritten]
      cases edited : before.files.editImports file plan.old plan.new preview with
      | error failure => exact .stopped rfl rfl (FileSystem.code_of_edit edited)
      | ok outcome =>
        rcases outcome with ⟨lines, files⟩
        have some := lines_ne_zero_of_importsClass derived.symm imports edited
        simp only [recordUpdate_eq, updateEvent, if_neg some]
        refine .telling ?_ rfl rfl
        rintro rfl
        rcases FileSystem.exists_read_of_edit edited with ⟨octets, read⟩
        rw [FileSystem.editImports_of_read read] at edited
        cases edited
        exact unwritten.symm
    · exact checked

theorem walks_visitFiles (plan : MovePlan) (preview : Bool) (files : List Path)
    (before : Progress) :
    Walks preview before (visitFiles plan preview files before).1
      (visitFiles plan preview files before).2 := by
  induction files generalizing before with
  | nil => exact .silent rfl rfl
  | cons file rest ih =>
    have first := walks_visitFile plan preview file before
    rw [visitFiles]
    rcases visited : visitFile plan preview file before with ⟨result, middle⟩
    rw [visited] at first
    cases result with
    | error failure => exact first
    | ok _ => exact first.trans (ih middle)

/-- Letting the imports follow is a walk, whatever the plan says. -/
theorem walks_propagate (plan : MovePlan) (settings : Settings) (preview : Bool)
    (before : Progress) :
    Walks preview before (propagate plan settings preview before).1
      (propagate plan settings preview before).2 := by
  rw [propagate]
  split
  · exact .silent rfl rfl
  · apply walks_visitFiles

/-! ## Changed trees -/

/-- A run that has changed the tree was no preview, and if it failed, the operating system
refused. -/
def Accountable {Answer : Type} (preview : Bool) (files : FileSystem)
    (result : Except Failure Answer) (after : FileSystem) : Prop :=
  after ≠ files →
    preview = false ∧ ∀ failure, result = .error failure → failure.cause.code = "internal.io_error"

namespace Accountable

variable {Answer Other : Type} {preview : Bool} {files after : FileSystem} {failure : Failure}

theorem unchanged (preview : Bool) (files : FileSystem) (result : Except Failure Answer) :
    Accountable preview files result files :=
  fun changed => absurd rfl changed

theorem ok (real : after ≠ files → preview = false) (answer : Answer) :
    Accountable preview files (.ok answer) after := by
  intro changed
  refine ⟨real changed, ?_⟩
  intro failure failed
  cases failed

theorem error (real : after ≠ files → preview = false)
    (refused : after ≠ files → failure.cause.code = "internal.io_error") :
    Accountable preview files (.error failure : Except Failure Answer) after := by
  intro changed
  refine ⟨real changed, ?_⟩
  intro other same
  cases Except.error.inj same
  exact refused changed

/-- A failure is handed on under another type of answers. -/
theorem handOn (accountable : Accountable preview files (.error failure : Except Failure Other)
    after) : Accountable preview files (.error failure : Except Failure Answer) after :=
  .error (fun changed => (accountable changed).1) fun changed =>
    (accountable changed).2 failure rfl

end Accountable

theorem accountable_applyMove (files : FileSystem) (plan : MovePlan) :
    Accountable false files (applyMove files plan).1 (applyMove files plan).2 := by
  rw [applyMove]
  split
  · exact .unchanged _ _ _
  · next lines edited _ =>
    intro _
    refine ⟨rfl, ?_⟩
    intro failure failed
    exact FileSystem.code_of_relocate (Prod.ext failed rfl)

theorem accountable_executeMove (files : FileSystem) (plan : MovePlan) (preview : Bool) :
    Accountable preview files (executeMove files plan preview).1
      (executeMove files plan preview).2 := by
  rw [executeMove]
  split
  · exact .unchanged _ _ _
  · split
    · exact .unchanged _ _ _
    · cases preview with
      | true => exact .unchanged _ _ _
      | false =>
        have applied := accountable_applyMove files plan
        rcases outcome : applyMove files plan with ⟨result, after⟩
        rw [outcome] at applied
        cases result with
        | error failure => exact applied.handOn
        | ok _ => exact .ok (fun _ => rfl) _

theorem accountable_runPlan (events : List Event) (settings : Settings) (preview : Bool)
    (plan : MovePlan) (files : FileSystem) (resolver : Resolver) :
    Accountable preview files (runPlan events settings preview plan files resolver).result
      (runPlan events settings preview plan files resolver).files := by
  have executed := accountable_executeMove files plan preview
  rw [runPlan]
  rcases outcome : executeMove files plan preview with ⟨result, moved⟩
  rw [outcome] at executed
  cases result with
  | error failure => exact executed.handOn
  | ok event =>
    have walked := walks_propagate plan settings preview
      { files := moved, resolver, events := events ++ [event] }
    dsimp only [hear_event]
    rcases followed : propagate plan settings preview
      { files := moved, resolver, events := events ++ [event] } with ⟨last, progress⟩
    rw [followed] at walked
    -- A preview has written nothing in either phase.
    have real : progress.files ≠ files → preview = false := by
      intro changed
      cases preview with
      | false => rfl
      | true =>
        have same : moved = files := by
          by_contra different
          cases (executed different).1
        exact absurd ((walked.previewed rfl).trans same) changed
    cases last with
    | error failure => exact .error real fun _ => walked.refused failure rfl
    | ok _ => exact .ok real _

theorem accountable_moveClass (files : FileSystem) (settings : Settings) (request : MoveRequest) :
    Accountable request.preview files (moveClass files settings request).result
      (moveClass files settings request).files := by
  rw [moveClass_eq]
  split
  · exact .unchanged _ _ _
  · split
    · exact .unchanged _ _ _
    · split
      · exact .unchanged _ _ _
      · apply accountable_runPlan

/-- Whatever the tree, the settings and the request: if the tree is not what it was, the run was no
preview, and it ended well or was refused by the operating system.  So a preview leaves the tree as
it was, and so does a run that fails for any other reason. -/
theorem moveClass_changed {files : FileSystem} {settings : Settings} {request : MoveRequest}
    (changed : (moveClass files settings request).files ≠ files) :
    request.preview = false ∧
      ((∃ result, (moveClass files settings request).result = .ok result) ∨
        ∃ failure, (moveClass files settings request).result = .error failure ∧
          failure.cause.code = "internal.io_error") := by
  rcases accountable_moveClass files settings request changed with ⟨real, refused⟩
  refine ⟨real, ?_⟩
  cases ended : (moveClass files settings request).result with
  | ok result => exact .inl ⟨result, rfl⟩
  | error failure => exact .inr ⟨failure, rfl, refused failure ended⟩

/-! ## A small tree with a file in the way

The class is to be moved into a directory, but there is a file of that name. -/

def blockedFiles : FileSystem :=
  .ofFiles [("/java/a/A.java", "package a;\nclass A\n"), ("/java/d", "")]

def blockedRequest : MoveRequest :=
  { sampleRequest with destination := .ofString "/java/d/D.java" }

def blockedPlan : MovePlan :=
  { samplePlan with
    target := .ofString "/java/d/D.java"
    new := ⟨"d".toList, "D".toList, by decide, by decide⟩ }

theorem moveClass_changed_blocked :
    (moveClass blockedFiles {} blockedRequest).files ≠ blockedFiles ∧
      blockedRequest.preview = false ∧
      ∃ failure, (moveClass blockedFiles {} blockedRequest).result = .error failure ∧
        failure.cause.code = "internal.io_error" := by
  have changed : (moveClass blockedFiles {} blockedRequest).files ≠ blockedFiles := by
    intro same
    have entries := congrArg (FileSystem.entryAt? · (.ofString "/java/a/A.java")) same
    exact absurd entries (by decide +kernel)
  have failed : ∀ result, (moveClass blockedFiles {} blockedRequest).result ≠ .ok result := by
    intro result ended
    have isError : (moveClass blockedFiles {} blockedRequest).result.toOption = none := by
      decide +kernel
    rw [ended] at isError
    cases isError
  rcases moveClass_changed changed with ⟨real, ⟨result, ended⟩ | refused⟩
  · exact absurd ended (failed result)
  · exact ⟨changed, real, refused⟩

/-! ## A file that cannot be renamed -/

/-- A move that is refused when its file is to be renamed, or when directories are to be made for
it, is not undone: the source has the declarations of the new class, no other file is changed, and
only directories that the target was to lie in are new. -/
theorem executeMove_refused {files edited final : FileSystem} {plan : MovePlan} {lines : Nat}
    {failure : Failure}
    (rewritten : files.editDeclarations plan.source plan.new false = .ok (lines, edited))
    (both : 2 ≤ lines)
    (refused : edited.relocate plan.source plan.target = (.error failure, final)) :
    executeMove files plan false = (.error failure, final) ∧
      ∃ octets, files.read plan.source = .ok octets ∧
        final.read plan.source = .ok (declared plan.new octets) ∧
        ∀ location, location ≠ files.locationOf plan.source →
          final.entryAt? location = files.entryAt? location ∨
            files.entryAt? location = none ∧ final.entryAt? location = some .dir ∧
              location ∈ (plan.target.parent?.getD ⟨[]⟩).ancestors.map files.locationOf := by
  rcases FileSystem.exists_read_of_edit rewritten with ⟨octets, read⟩
  have held := FileSystem.entryAt?_of_read read
  have tried := FileSystem.editDeclarations_of_read read plan.new true
  have carried := FileSystem.editDeclarations_of_read read plan.new false
  rw [rewritten] at carried
  cases carried
  constructor
  · simp only [executeMove, tried, applyMove, rewritten, refused, if_neg (Nat.not_lt.2 both)]
    rfl
  · have added := FileSystem.added_of_relocate_error refused
    have keeps := (FileSystem.Keeps.writeAt held (declared plan.new octets)).trans added.keeps
    have written : final.entryAt? (files.locationOf plan.source) =
        some (.file (declared plan.new octets)) := by
      apply added.kept
      exact (FileSystem.entryAt?_writeAt held ..).trans (if_pos rfl)
    refine ⟨octets, read, keeps.read read written, ?_⟩
    intro location elsewhere
    have unwritten : (files.writeAt (files.locationOf plan.source)
        (declared plan.new octets)).entryAt? location = files.entryAt? location :=
      (FileSystem.entryAt?_writeAt held ..).trans (if_neg elsewhere)
    rw [← unwritten]
    exact added.entries location

theorem executeMove_refused_blocked :
    (executeMove blockedFiles blockedPlan false).1 =
        .error (OsError.exists.toFailure "create /java/d") ∧
      (executeMove blockedFiles blockedPlan false).2.read blockedPlan.source =
        .ok (Utf8.encode "package d;\nclass D\n".toList) ∧
      (executeMove blockedFiles blockedPlan false).2.entryAt? (.ofString "/java/d") =
        some (.ofString "") := by
  have opened : blockedFiles.read blockedPlan.source =
      .ok (Utf8.encode "package a;\nclass A\n".toList) := by decide +kernel
  have rewritten := FileSystem.editDeclarations_of_read opened blockedPlan.new false
  have both : 2 ≤ (Revision.ofOctets (declare blockedPlan.new) {}
      (Utf8.encode "package a;\nclass A\n".toList)).linesChanged := by decide +kernel
  have stopped : ((blockedFiles.writeAt (blockedFiles.locationOf blockedPlan.source)
      (declared blockedPlan.new (Utf8.encode "package a;\nclass A\n".toList))).relocate
        blockedPlan.source blockedPlan.target).1 =
      .error (OsError.exists.toFailure "create /java/d") := by decide +kernel
  rcases executeMove_refused rewritten both (Prod.ext stopped rfl) with
    ⟨outcome, octets, read, edited, others⟩
  rw [opened] at read
  cases read
  rw [outcome]
  refine ⟨rfl, ?_, ?_⟩
  · rw [edited]
    decide +kernel
  · have inTheWay : blockedFiles.entryAt? (.ofString "/java/d") = some (.ofString "") := by
      decide +kernel
    rcases others (.ofString "/java/d") (by decide +kernel) with same | ⟨missing, -, -⟩
    · rw [same, inTheWay]
    · rw [inTheWay] at missing
      cases missing

/-- The octets of the source are not what they were: the move was refused after the edit. -/
theorem executeMove_refused_edits_source :
    (executeMove blockedFiles blockedPlan false).1 =
        .error (OsError.exists.toFailure "create /java/d") ∧
      blockedFiles.read blockedPlan.source =
        .ok (Utf8.encode "package a;\nclass A\n".toList) ∧
      (executeMove blockedFiles blockedPlan false).2.read blockedPlan.source ≠
        blockedFiles.read blockedPlan.source := by
  refine ⟨?_, ?_, ?_⟩
  all_goals decide +kernel

end ClassMove
