import ClassMove.Proofs.Files.Relocate
import ClassMove.Proofs.Move.Plan
import ClassMove.Proofs.Source.Changes

/-!
# The tree after the file was moved

A move that ends well leaves the source edited at the target, directories above the
target, and all else as it was.  A move that fails half way touches no file but the
source.
-/

namespace ClassMove

theorem FileSystem.editDeclarations_toPath {files : FileSystem} {location : Location}
    {octets : List UInt8} (read : files.read location.toPath = .ok octets) (name : ClassName)
    (preview : Bool) :
    files.editDeclarations location.toPath name preview =
      .ok ((Revision.ofOctets (declare name) {} octets).linesChanged,
        if preview then files else files.writeAt location (declared name octets)) := by
  rw [editDeclarations_of_read read, locationOf, Location.ofPath_toPath]

/-- Is the location a directory that the other one lies in? -/
def Location.isAbove (location other : Location) : Bool :=
  match location.below? other with
  | none => false
  | some names => names != []

theorem Location.isAbove_iff {location other : Location} :
    location.isAbove other = true ↔ ∃ names, names ≠ [] ∧ other = location.descend names := by
  rw [isAbove]
  cases below : location.below? other with
  | none =>
    simp only [Bool.false_eq_true, false_iff]
    rintro ⟨names, -, same⟩
    rw [below?_eq_some_iff.2 same] at below
    cases below
  | some names =>
    have same := below?_eq_some_iff.1 below
    simp only [bne_iff_ne]
    constructor
    · intro nonempty
      exact ⟨names, nonempty, same⟩
    · rintro ⟨others, nonempty, same'⟩
      rw [same] at same'
      exact location.descend_injective same' ▸ nonempty

/-- The entries of a tree after the file at `source` was given other octets and moved to
`target`. -/
def movedEntryAt? (files : FileSystem) (source target : Location) (octets : List UInt8)
    (location : Location) : Option Entry :=
  if location = target then some (.file octets)
  else if location = source then none
  else if location.isAbove target then some .dir
  else files.entryAt? location

/-- A file was given other octets and moved to `target`, where no directory was, and nothing that
stood in the way was changed. -/
structure Relocated (files moved : FileSystem) (source target : Location) (octets : List UInt8) :
    Prop where
  accepted : FileSystem.accept target.toPath = .ok ()
  noDir : files.entryAt? target ≠ some .dir
  unobstructed : ∀ location, location.isAbove target = true →
    ∀ content, files.entryAt? location ≠ some (.file content)
  entries : ∀ location, moved.entryAt? location = movedEntryAt? files source target octets location

/-! ## What a renamed file leaves -/

/-- Everything above a file is a directory. -/
theorem FileSystem.entryAt?_eq_dir_of_isAbove {files : FileSystem} {location target : Location}
    {octets : List UInt8} (there : files.entryAt? target = some (.file octets))
    (higher : location.isAbove target = true) : files.entryAt? location = some .dir := by
  rcases Location.isAbove_iff.1 higher with ⟨names, below, rfl⟩
  exact entryAt?_eq_dir_of_descend below there

namespace FileSystem.Grown

variable {files made : FileSystem} {source parent location : Location} {old octets : List UInt8}

theorem edited (grown : Grown (files.writeAt source octets) made parent)
    (held : files.entryAt? source = some (.file old)) :
    made.entryAt? source = some (.file octets) := by
  apply grown.kept
  rw [entryAt?_writeAt held, if_pos rfl]

theorem unedited (grown : Grown (files.writeAt source octets) made parent)
    (held : files.entryAt? source = some (.file old)) (notSource : location ≠ source)
    {entry : Entry} (there : files.entryAt? location = some entry) :
    made.entryAt? location = some entry := by
  apply grown.kept
  rw [entryAt?_writeAt held, if_neg notSource, there]

end FileSystem.Grown

namespace Relocated

variable {files moved : FileSystem} {source target : Location} {octets : List UInt8}

/-- A file is relocated when it was edited, directories were made above the target, and it was
renamed. -/
theorem of_rename {made : FileSystem} {parent : Location} {name : FileName} {old : List UInt8}
    (held : files.entryAt? source = some (.file old))
    (grown : FileSystem.Grown (files.writeAt source octets) made parent)
    (renamed : made.rename source.toPath (parent.descend [name]).toPath = .ok moved) :
    Relocated files moved source (parent.descend [name]) octets := by
  rcases FileSystem.rename_toPath_eq_ok (grown.edited held) renamed with
    ⟨accepted, noDir, entries⟩
  have arrived : moved.entryAt? (parent.descend [name]) = some (.file octets) := by
    rw [entries, if_pos rfl]
  constructor
  · exact accepted
  · intro isDir
    by_cases atSource : parent.descend [name] = source
    · rw [atSource, held] at isDir
      cases isDir
    · exact noDir (grown.unedited held atSource isDir)
  · intro location higher content there
    have isDir := FileSystem.entryAt?_eq_dir_of_isAbove arrived higher
    rw [entries] at isDir
    split at isDir
    · cases isDir
    · split at isDir
      · cases isDir
      · next _ notSource =>
        rw [grown.unedited held notSource there] at isDir
        cases isDir
  · intro location
    rw [movedEntryAt?]
    by_cases atTarget : location = parent.descend [name]
    · rw [if_pos atTarget, atTarget, arrived]
    · rw [if_neg atTarget]
      by_cases atSource : location = source
      · rw [entries, if_neg atTarget, if_pos atSource, if_pos atSource]
      · rw [if_neg atSource]
        split
        · next higher => exact FileSystem.entryAt?_eq_dir_of_isAbove arrived higher
        · next lower =>
          rw [entries, if_neg atTarget, if_neg atSource]
          rcases grown location with same | ⟨-, -, names, rfl⟩
          · rw [same, FileSystem.entryAt?_writeAt held, if_neg atSource]
          · exact absurd (Location.isAbove_iff.2
              ⟨names ++ [name], by simp, Location.descend_descend ..⟩) lower

theorem entryAt?_target (relocated : Relocated files moved source target octets) :
    moved.entryAt? target = some (.file octets) := by
  rw [relocated.entries, movedEntryAt?, if_pos rfl]

theorem entryAt?_source (relocated : Relocated files moved source target octets)
    (different : source ≠ target) : moved.entryAt? source = none := by
  rw [relocated.entries, movedEntryAt?, if_neg different, if_pos rfl]

/-- Away from the target, the files of the moved tree are the old ones without the source. -/
theorem entryAt?_eq_file_iff (relocated : Relocated files moved source target octets)
    {location : Location} (elsewhere : location ≠ target) {content : List UInt8} :
    moved.entryAt? location = some (.file content) ↔
      location ≠ source ∧ files.entryAt? location = some (.file content) := by
  rw [relocated.entries, movedEntryAt?, if_neg elsewhere]
  by_cases atSource : location = source
  · simp [atSource]
  · rw [if_neg atSource]
    split
    · next higher =>
      constructor
      · intro there
        cases there
      · rintro ⟨-, there⟩
        exact absurd there (relocated.unobstructed location higher content)
    · simp [atSource]

theorem dir_kept (relocated : Relocated files moved source target octets) {old : List UInt8}
    (held : files.entryAt? source = some (.file old)) {location : Location}
    (isDir : files.entryAt? location = some .dir) : moved.entryAt? location = some .dir := by
  have notTarget : location ≠ target := by
    rintro rfl
    exact relocated.noDir isDir
  have notSource : location ≠ source := by
    rintro rfl
    rw [held] at isDir
    cases isDir
  rw [relocated.entries, movedEntryAt?, if_neg notTarget, if_neg notSource]
  split
  · rfl
  · exact isDir

theorem dir_added (relocated : Relocated files moved source target octets) {location : Location}
    (isDir : moved.entryAt? location = some .dir) :
    files.entryAt? location = some .dir ∨
      files.entryAt? location = none ∧ location.isAbove target = true := by
  rw [relocated.entries, movedEntryAt?] at isDir
  split at isDir
  · cases isDir
  · split at isDir
    · cases isDir
    · split at isDir
      · next higher =>
        cases there : files.entryAt? location with
        | none => exact .inr ⟨rfl, higher⟩
        | some entry =>
          cases entry with
          | dir => exact .inl rfl
          | file content => exact absurd there (relocated.unobstructed location higher content)
      · exact .inl isDir

end Relocated

/-! ## Carrying out a plan -/

namespace Planned

variable {files : FileSystem} {request : MoveRequest} {base : Location} {checked : CheckedMove}
  {plan : MovePlan}

theorem exists_parent_target (plan : MovePlan) (base : Location) :
    ∃ parent name, plan.targetBelow base = Location.descend parent [name] := by
  apply Location.exists_parent
  simp [MovePlan.targetBelow, Location.descend, plan.new.relativeNames_ne_nil plan.dialect]

/-- All that carrying out a plan can come to: nothing is changed, or the source is edited,
directories are made above the target, and the source is renamed or stays. -/
theorem executeMove_cases (planned : Planned files request base checked plan)
    {octets : List UInt8} (read : files.read checked.source.toPath = .ok octets)
    (preview : Bool) :
    (∃ result, executeMove files plan preview = (result, files) ∧
      (preview = false → ∃ failure, result = .error failure)) ∨
    (preview = false ∧ ∃ parent name made, plan.targetBelow base = Location.descend parent [name] ∧
      FileSystem.Grown (files.writeAt checked.source (declared plan.new octets)) made parent ∧
      ((∃ failure, executeMove files plan preview = (.error failure, made)) ∨
        ∃ event final, executeMove files plan preview = (.ok event, final) ∧
          made.rename checked.source.toPath (Location.descend parent [name]).toPath =
            .ok final)) := by
  rcases planned.spelled with ⟨-, sourceSpelled, targetSpelled⟩
  simp only [executeMove, applyMove, sourceSpelled, FileSystem.editDeclarations_toPath read]
  split
  · exact .inl ⟨_, rfl, fun _ => ⟨_, rfl⟩⟩
  · cases preview with
    | true => exact .inl ⟨_, rfl, by simp⟩
    | false =>
      right
      rcases exists_parent_target plan base with ⟨parent, name, same⟩
      rcases FileSystem.relocate_toPath (files.writeAt checked.source (declared plan.new octets))
        checked.source parent name with ⟨made, grown, outcome⟩
      refine ⟨rfl, parent, name, made, same, grown, ?_⟩
      rw [targetSpelled, same]
      rcases outcome with ⟨failure, stopped⟩ | ⟨final, relocated, renamed⟩
      · left
        simp [stopped]
      · right
        refine ⟨plan.movedEvent final.current, final, ?_, renamed⟩
        simp [relocated]

theorem executeMove_preview (planned : Planned files request base checked plan)
    {event : Event} {moved : FileSystem}
    (done : executeMove files plan true = (.ok event, moved)) : moved = files := by
  rcases planned.exists_declaration with ⟨octets, -, -, read, -⟩
  rcases planned.executeMove_cases read true with ⟨result, same, -⟩ | ⟨real, -⟩
  · rw [same] at done
    cases done
    rfl
  · cases real

/-- The tree after a move that ended well. -/
theorem relocated_of_executeMove (planned : Planned files request base checked plan)
    {octets : List UInt8} (read : files.read checked.source.toPath = .ok octets)
    {event : Event} {moved : FileSystem}
    (done : executeMove files plan false = (.ok event, moved)) :
    Relocated files moved checked.source (plan.targetBelow base) (declared plan.new octets) := by
  rcases FileSystem.read_toPath_eq_ok_iff.1 read with ⟨-, -, held⟩
  rcases planned.executeMove_cases read false with
    ⟨result, same, failed⟩ | ⟨-, parent, name, made, target, grown, stopped | renamed⟩
  · rcases failed rfl with ⟨failure, rfl⟩
    rw [same] at done
    cases done
  · rcases stopped with ⟨failure, same⟩
    rw [same] at done
    cases done
  · rcases renamed with ⟨event', final, same, renamed⟩
    rw [same] at done
    cases done
    rw [target]
    exact .of_rename held grown renamed

/-- Whatever the outcome, no file but the source is changed, and none but one that can be reached
at the target is replaced. -/
theorem executeMove_kept (planned : Planned files request base checked plan)
    (preview : Bool) {location : Location} {octets : List UInt8}
    (there : files.entryAt? location = some (.file octets)) (notSource : location ≠ checked.source)
    (notTarget : location = plan.targetBelow base →
      FileSystem.accept (plan.targetBelow base).toPath ≠ .ok ()) :
    (executeMove files plan preview).2.entryAt? location = some (.file octets) := by
  rcases planned.exists_declaration with ⟨old, -, held, read, -⟩
  rcases planned.executeMove_cases read preview with
    ⟨result, same, -⟩ | ⟨-, parent, name, made, target, grown, outcome⟩
  · rw [same]
    exact there
  · rcases outcome with ⟨failure, same⟩ | ⟨event, final, same, renamed⟩
    · rw [same]
      exact grown.unedited held notSource there
    · have relocated : Relocated files final checked.source (Location.descend parent [name])
          (declared plan.new old) := .of_rename held grown renamed
      rw [target] at notTarget
      have elsewhere : location ≠ Location.descend parent [name] :=
        fun atTarget => notTarget atTarget relocated.accepted
      rw [same]
      exact (relocated.entryAt?_eq_file_iff elsewhere).2 ⟨notSource, there⟩

end Planned

end ClassMove
