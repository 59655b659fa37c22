import ClassMove.Proofs.Move.Failure

/-!
# Scanner and editors agree

A file from which a class is read has both declarations that an editor looks for, and
every import that is read from it is one that an editor finds.  Two branches of a move
are therefore never taken: no move fails because a declaration could not be edited, and
no walk tells that an import could not be updated.
-/

namespace ClassMove

/-! ## Editing a file whose class is known -/

/-- A file whose class is read by some spelling of its path was opened by that spelling. -/
theorem Identity.exists_read_of_ofContents {files : FileSystem} {path : Path}
    {identity : Identity} (derived : ofContents files path = .ok identity) :
    ∃ octets, files.read path = .ok octets ∧
      declaration? octets = some (identity.name, identity.imports) := by
  rw [ofContents] at derived
  split at derived
  · cases derived
  · next octets read => exact ⟨octets, read, (ofOctets_eq_ok_iff.1 derived).1⟩

theorem exists_editDeclarations {files : FileSystem} {path : Path} {identity : Identity}
    (derived : Identity.ofContents files path = .ok identity) (new : ClassName)
    (preview : Bool) : ∃ after, files.editDeclarations path new preview = .ok (2, after) := by
  rcases Identity.exists_read_of_ofContents derived with ⟨octets, read, found⟩
  rw [FileSystem.editDeclarations_of_read read, linesChanged_declare_of_declaration found]
  exact ⟨_, rfl⟩

theorem exists_editImports {files : FileSystem} {path : Path} {identity : Identity}
    (derived : Identity.ofContents files path = .ok identity) (old new : ClassName)
    (preview : Bool) :
    ∃ lines after, files.editImports path old new preview = .ok (lines, after) ∧
      identity.imports.count old ≤ lines := by
  rcases Identity.exists_read_of_ofContents derived with ⟨octets, read, found⟩
  rw [FileSystem.editImports_of_read read]
  exact ⟨_, _, rfl, count_le_linesChanged_reimport found old new⟩

/-! ## Failures that are foreseen -/

/-- Is the failure one that is meant to happen? -/
def Failure.Foreseen (failure : Failure) : Prop :=
  failure.cause.code ≠ "internal.unexpected"

namespace Failure.Foreseen

variable {failure : Failure}

theorem of_io (refused : failure.cause.code = "internal.io_error") : failure.Foreseen := by
  rw [Foreseen, refused]
  decide

theorem of_isSkippable (skippable : failure.cause.isSkippable = true) : failure.Foreseen := by
  rcases failure with ⟨cause, hints⟩
  cases cause with
  | invalidName => simp [Foreseen, Cause.code]
  | invalidPackage => simp [Foreseen, Cause.code]
  | malformed => simp [Foreseen, Cause.code]
  | _ => cases skippable

end Failure.Foreseen

theorem foreseen_of_checkMove {files : FileSystem} {request : MoveRequest} {failure : Failure}
    (failed : checkMove files request = .error failure) : failure.Foreseen := by
  simp only [checkMove] at failed
  split at failed
  · cases Except.error.inj failed
    simp [Failure.Foreseen, Failure.unsupported, Cause.code]
  · split at failed
    · cases Except.error.inj failed
      simp [Failure.Foreseen, Failure.of, Cause.code]
    · cases Except.error.inj failed
      simp [Failure.Foreseen, Failure.of, Cause.code]
    · split at failed
      · cases Except.error.inj failed
        simp [Failure.Foreseen, Failure.of, Cause.code]
      · split at failed
        · cases Except.error.inj failed
          simp [Failure.Foreseen, Failure.destinationExists, Cause.code]
        · split at failed
          · cases failed
          · cases Except.error.inj failed
            simp [Failure.Foreseen, Failure.of, Cause.code]

theorem foreseen_of_resolveBase {files : FileSystem} {settings : Settings}
    {explicit? : Option Path} {source : Path} {failure : Failure} {events : List Event}
    (failed : resolveBase files settings explicit? source = (.error failure, events)) :
    failure.Foreseen := by
  rw [resolveBase, resolveBaseTelling.eq_def] at failed
  split at failed
  · split at failed
    · cases failed
    · cases failed
      simp [Failure.Foreseen, Failure.of, Cause.code]
  · split at failed
    · cases failed
    · cases failed
      simp [Failure.Foreseen, Cause.code]

theorem Resolver.foreseen_of_resolve {resolver later : Resolver} {files : FileSystem}
    {derivation : Derivation} {freshness : Freshness} {location : Location} {failure : Failure}
    (failed : resolver.resolve files derivation freshness location = (.error failure, later)) :
    failure.Foreseen := by
  simp only [resolve] at failed
  split at failed
  · cases failed
  · split at failed
    · cases failed
    · next _ derived =>
      cases failed
      cases derivation with
      | location => exact .of_isSkippable (Identity.isSkippable_of_ofLocation derived)
      | contents =>
        cases skippable : failure.cause.isSkippable with
        | true => exact .of_isSkippable skippable
        | false => exact .of_io (Identity.code_of_ofContents derived skippable)

theorem foreseen_of_planMove {files : FileSystem} {checked : CheckedMove}
    {resolver later : Resolver} {failure : Failure}
    (failed : planMove files checked resolver = (.error failure, later)) : failure.Foreseen := by
  rw [planMove] at failed
  split at failed
  · next resolved =>
    cases failed
    exact Resolver.foreseen_of_resolve resolved
  · split at failed
    · next resolved =>
      cases failed
      exact Resolver.foreseen_of_resolve resolved
    · cases failed

/-- A move that was planned fails only if the operating system refuses: the plan was made from a
file that declares a class, so both declarations are there to be edited. -/
theorem Planned.code_of_executeMove {files moved : FileSystem} {request : MoveRequest}
    {base : Location} {checked : CheckedMove} {plan : MovePlan} {preview : Bool}
    {failure : Failure} (planned : Planned files request base checked plan)
    (failed : executeMove files plan preview = (.error failure, moved)) :
    failure.cause.code = "internal.io_error" := by
  rcases planned.exists_declaration with ⟨octets, imports, -, read, found⟩
  rw [← planned.spelled.2.1] at read
  rw [executeMove, FileSystem.editDeclarations_of_read read,
    linesChanged_declare_of_declaration found] at failed
  cases preview with
  | true => cases failed
  | false =>
    simp only [applyMove, FileSystem.editDeclarations_of_read read, Nat.lt_irrefl,
      Bool.false_eq_true, ↓reduceIte] at failed
    split at failed
    · next relocated =>
      cases failed
      exact FileSystem.code_of_relocate relocated
    · cases failed

/-- No move ends in a failure that is not foreseen. -/
theorem foreseen_of_moveClass {files : FileSystem} {settings : Settings} {request : MoveRequest}
    {failure : Failure} (failed : (moveClass files settings request).result = .error failure) :
    failure.Foreseen := by
  rw [moveClass_eq] at failed
  split at failed
  · next stopped =>
    cases failed
    exact foreseen_of_checkMove stopped
  · next checked passed =>
    split at failed
    · next stopped =>
      cases failed
      exact foreseen_of_resolveBase stopped
    · next base events _ =>
      split at failed
      · next stopped =>
        cases failed
        exact foreseen_of_planMove stopped
      · next plan resolver made =>
        have planned : Planned files request base checked plan := ⟨passed, by rw [made]⟩
        rw [runPlan] at failed
        split at failed
        · next stopped =>
          cases failed
          exact .of_io (planned.code_of_executeMove stopped)
        · next event moved _ =>
          have walked := walks_propagate plan settings request.preview
            { files := moved, resolver, events := events ++ [event] }
          dsimp only [hear_event] at failed
          split at failed
          · next stopped =>
            cases failed
            rw [stopped] at walked
            exact .of_io (walked.refused failure rfl)
          · cases failed

/-! ## The agreement -/

/-- Scanner and editors agree on the octets of every file, valid text or not.  Where a class is
read, both its declarations are edited, and every import that was read is updated, in a preview as
in a real run.  So no move fails with something unexpected, and no walk, of whatever plan, tells of
an import that it could not update. -/
theorem edits_agree_with_scan :
    (∀ files path identity, Identity.ofContents files path = .ok identity →
      (∀ new preview, ∃ after, files.editDeclarations path new preview = .ok (2, after)) ∧
      ∀ old new preview, ∃ lines after,
        files.editImports path old new preview = .ok (lines, after) ∧
          identity.imports.count old ≤ lines) ∧
    (∀ files settings request failure,
      (moveClass files settings request).result = .error failure →
        failure.cause.code ≠ "internal.unexpected") ∧
    ∀ plan settings preview (before : Progress), ∃ told,
      (propagate plan settings preview before).2.events = before.events ++ told ∧
        ∀ file? message, Event.warning .importNotUpdated file? message ∉ told := by
  refine ⟨?_, ?_, ?_⟩
  · intro files path identity derived
    exact ⟨exists_editDeclarations derived, exists_editImports derived⟩
  · intro files settings request failure failed
    exact foreseen_of_moveClass failed
  · intro plan settings preview before
    rcases (walks_propagate plan settings preview before).told with ⟨told, same, quiet⟩
    refine ⟨told, same, ?_⟩
    intro file? message member
    cases quiet _ member

/-- A class with comments that encode no text, on every line that an editor looks for. -/
def undecodableFiles : FileSystem :=
  sampleFiles.writeAt (.ofString "/java/a/A.java")
    (Utf8.encode "package a; // ".toList ++ 0xff :: Utf8.encode "\nimport b.B; // ".toList ++
      0xff :: Utf8.encode "\nimport static b.B.size;\nclass A // ".toList ++ [0xc3, 0x28])

def importedTwice : ClassName :=
  ⟨"b".toList, "B".toList, by decide, by decide⟩

theorem edits_agree_with_scan_undecodable :
    Identity.ofContents undecodableFiles samplePlan.source =
        .ok ⟨.ofString "/java/a/A.java", samplePlan.old, [importedTwice, importedTwice],
          .contents⟩ ∧
      (∃ after, undecodableFiles.editDeclarations samplePlan.source samplePlan.new false =
        .ok (2, after)) ∧
      ∃ lines after, undecodableFiles.editImports samplePlan.source importedTwice samplePlan.new
        false = .ok (lines, after) ∧ 2 ≤ lines := by
  have derived : Identity.ofContents undecodableFiles samplePlan.source =
      .ok ⟨.ofString "/java/a/A.java", samplePlan.old, [importedTwice, importedTwice],
        .contents⟩ := by decide +kernel
  rcases edits_agree_with_scan.1 _ _ _ derived with ⟨declarations, imports⟩
  have twice : [importedTwice, importedTwice].count importedTwice = 2 := by decide +kernel
  refine ⟨derived, declarations samplePlan.new false, ?_⟩
  rw [← twice]
  exact imports importedTwice samplePlan.new false

end ClassMove
