import ClassMove.Proofs.Move.Execute

/-!
# The target of a plan

The destination of a request is searched for a file, but the file goes to the target,
which is worked out from the class of the destination.  The two are one place exactly
when no directory between the base and the destination has a dot in its name.  Where
they differ, nothing has looked at the target, and a file there is replaced.
-/

namespace ClassMove

/-- The target of a plan lies in the directories of the destination, each cut at its dots, and all
its names encode texts.  It is the destination exactly when none of the directories has a dot in its
name, and then no file is at the target, and carrying out the plan replaces no file, whatever the
outcome. -/
theorem planMove_target_eq_iff {files : FileSystem} {request : MoveRequest} {base : Location}
    {checked : CheckedMove} {plan : MovePlan} (passed : checkMove files request = .ok checked)
    (planned : (planMove files checked { base }).1 = .ok plan) :
    ∃ names fileName target,
      checked.destination = base.descend (names ++ [fileName]) ∧
      plan.target = (base.descend target).toPath ∧
      (∀ name ∈ target, name.IsText) ∧
      target.map FileName.text =
        (names.flatMap fun name => Text.split '.' name.text) ++ [fileName.text] ∧
      (plan.target = checked.destination.toPath ↔ ∀ name ∈ names, '.' ∉ name.text) ∧
      (plan.target = checked.destination.toPath →
        files.pathExists plan.target = false ∧
        ∀ preview location octets, location ≠ checked.source →
          files.entryAt? location = some (.file octets) →
          (executeMove files plan preview).2.entryAt? location = some (.file octets)) := by
  have both : Planned files request base checked plan := ⟨passed, planned⟩
  rcases checkMove_eq_ok passed with ⟨-, -, free, extended⟩
  rcases planMove_eq_ok planned with ⟨old, new, -, located, shape, -⟩
  rcases Identity.map_text_relativeNames_of_ofLocation located extended with
    ⟨names, fileName, destination, encode, texts⟩
  have alsoEncode : ∀ name ∈ new.name.relativeNames checked.dialect, name.IsText :=
    fun _ => ClassName.isText_of_mem_relativeNames
  have target : plan.targetBelow base =
      base.descend (new.name.relativeNames checked.dialect) := by
    rw [shape]
    rfl
  have spelled : plan.target = (plan.targetBelow base).toPath := both.spelled.2.2
  refine ⟨names, fileName, new.name.relativeNames checked.dialect, destination, ?_, alsoEncode,
    texts, ?_, ?_⟩
  · rw [spelled, target]
  · rw [spelled, target, ← Identity.descend_relativeNames_eq_iff encode alsoEncode texts,
      ← destination]
    constructor
    · exact Location.toPath_injective
    · exact congrArg Location.toPath
  · intro same
    have there : plan.targetBelow base = checked.destination :=
      Location.toPath_injective (spelled.symm.trans same)
    refine ⟨?_, ?_⟩
    · rw [same]
      exact FileSystem.pathExists_toPath_eq_false free
    · intro preview location octets notSource held
      apply both.executeMove_kept preview held notSource
      intro atTarget accepted
      -- A file at the destination would have been found when the request was checked.
      rw [there] at atTarget accepted
      rw [atTarget, FileSystem.entryAt?_eq_file_iff] at held
      rw [FileSystem.reach?_eq_some_iff.2 ⟨accepted, held⟩] at free
      cases free

theorem planMove_target_sample :
    checkMove sampleFiles sampleRequest = .ok sampleChecked ∧
      (planMove sampleFiles sampleChecked { base := .ofString "/java" }).1 = .ok samplePlan ∧
      samplePlan.target = sampleChecked.destination.toPath ∧
      sampleFiles.pathExists samplePlan.target = false ∧
      ∀ preview location octets, location ≠ sampleChecked.source →
        sampleFiles.entryAt? location = some (.file octets) →
        (executeMove sampleFiles samplePlan preview).2.entryAt? location = some (.file octets) := by
  have same : samplePlan.target = sampleChecked.destination.toPath := by decide +kernel
  rcases planMove_target_eq_iff plans_sample.passed plans_sample.planned with
    ⟨-, -, -, -, -, -, -, -, kept⟩
  exact ⟨plans_sample.passed, plans_sample.planned, same, kept same⟩

/-! ## A directory with a dot in its name -/

def dottedFiles : FileSystem :=
  .ofFiles [("/java/a/A.java", "package a;\nclass A\n"),
    ("/java/x/y/A.java", "package x.y;\nclass A // kept\n")]

def dottedRequest : MoveRequest where
  source := .ofString "/java/a/A.java"
  destination := .ofString "/java/x.y/A.java"

def dottedChecked : CheckedMove where
  source := .ofString "/java/a/A.java"
  destination := .ofString "/java/x.y/A.java"
  dialect := .java

def dottedPlan : MovePlan where
  base := .ofString "/java"
  source := .ofString "/java/a/A.java"
  target := .ofString "/java/x/y/A.java"
  dialect := .java
  old := samplePlan.old
  new := ⟨"x.y".toList, "A".toList, by decide, samplePlan.old.simple_valid⟩

/-- A free destination in a directory with a dot in its name is planned elsewhere, and the file
there is replaced. -/
theorem planMove_dotted_target :
    checkMove dottedFiles dottedRequest = .ok dottedChecked ∧
      (planMove dottedFiles dottedChecked { base := .ofString "/java" }).1 = .ok dottedPlan ∧
      dottedPlan.target ≠ dottedChecked.destination.toPath ∧
      dottedFiles.pathExists dottedPlan.target = true ∧
      dottedFiles.entryAt? (.ofString "/java/x/y/A.java") =
        some (.ofString "package x.y;\nclass A // kept\n") ∧
      (executeMove dottedFiles dottedPlan false).2.entryAt? (.ofString "/java/x/y/A.java") =
        some (.ofString "package x.y;\nclass A\n") := by
  refine ⟨?_, ?_, ?_, ?_, ?_, ?_⟩
  all_goals decide +kernel

end ClassMove
