import ClassMove.Proofs.Files.Follow
import ClassMove.Proofs.Source.Declaration

/-!
# How many lines an edit changes

Both editors change exactly the lines that a scanner would read as theirs, whatever
octets the lines hold.  Giving a file other declarations changes its first package line
and its first type line; pointing imports elsewhere changes every line that imports the
class.  So in a file with a header the first editor changes two lines, and the second at
least as many as the header lists.
-/

namespace ClassMove

open Utf8

namespace Line

/-- Is the line a package line? -/
def isPackage : Line → Bool
  | .package _ => true
  | _ => false

/-- Is the line a type line? -/
def isType : Line → Bool
  | .type _ => true
  | _ => false

/-- Does the line import the class, or something of it? -/
def importsClass (name : ClassName) : Line → Bool
  | .importing line => (line.suffixOf? name).isSome
  | _ => false

end Line

/-- What the lines of a file say. -/
def said (octets : List UInt8) : List Line :=
  (lines octets).map fun line => Line.ofText (view line)

/-! ## One line -/

theorem changed_ofEdit_before {octets : List UInt8} {front tail : Text}
    (severed : Severed (view octets) front tail) (head : Text) :
    (EditedLine.ofEdit octets (.before (view octets) tail head)).changed = true := by
  rcases Edit.applied?_before severed head with ⟨rest, -, -, applied⟩
  rw [EditedLine.ofEdit, applied]

theorem changed_ofEdit_keep (octets : List UInt8) :
    (EditedLine.ofEdit octets .keep).changed = false :=
  rfl

/-- A line is given another declaration exactly if it is one that is still to come. -/
theorem changed_declare (name : ClassName) (pending : Pending) (octets : List UInt8) :
    (EditedLine.ofEdit octets (declare name pending (view octets)).1).changed =
      (pending.package && (Line.ofText (view octets)).isPackage ||
        pending.type && (Line.ofText (view octets)).isType) := by
  rcases Line.ofText_cases (view octets) with
    ⟨line, said, read, -, noType⟩ | ⟨line, said, -, noPackage, noType⟩ |
      ⟨line, said, read, noPackage, -⟩ | ⟨said, noPackage, -, noType⟩
  · rcases PackageLine.severed read with ⟨start, severed⟩
    by_cases first : pending.package = true
    · simp [said, Line.isPackage, declare, read, first, changed_ofEdit_before severed]
    · simp [said, Line.isPackage, Line.isType, declare, declareType, read, noType, first,
        changed_ofEdit_keep]
  · simp [said, Line.isPackage, Line.isType, declare, declareType, noPackage, noType,
      changed_ofEdit_keep]
  · rcases TypeLine.severed read with ⟨start, severed⟩
    by_cases first : pending.type = true
    · simp [said, Line.isPackage, Line.isType, declare, declareType, noPackage, read, first,
        changed_ofEdit_before severed]
    · simp [said, Line.isPackage, Line.isType, declare, declareType, noPackage, read, first,
        changed_ofEdit_keep]
  · simp [said, Line.isPackage, Line.isType, declare, declareType, noPackage, noType,
      changed_ofEdit_keep]

/-- A line is pointed at another class exactly if it imports the old one. -/
theorem changed_importEdit (old new : ClassName) (octets : List UInt8) :
    (EditedLine.ofEdit octets (importEdit old new (view octets))).changed =
      (Line.ofText (view octets)).importsClass old := by
  rcases Line.ofText_cases (view octets) with
    ⟨line, said, -, noImport, -⟩ | ⟨line, said, read, -, -⟩ | ⟨line, said, -, -, noImport⟩ |
      ⟨said, -, noImport, -⟩
  · simp [said, Line.importsClass, importEdit, noImport, changed_ofEdit_keep]
  · cases imported : line.suffixOf? old with
    | none => simp [said, Line.importsClass, importEdit, read, imported, changed_ofEdit_keep]
    | some suffix =>
      rcases ImportLine.severed read with ⟨start, severed⟩
      simp [said, Line.importsClass, importEdit, read, imported, changed_ofEdit_before severed]
  · simp [said, Line.importsClass, importEdit, noImport, changed_ofEdit_keep]
  · simp [said, Line.importsClass, importEdit, noImport, changed_ofEdit_keep]

/-! ## All lines -/

theorem countP_changed_declare (name : ClassName) (pending : Pending)
    (pieces : List (List UInt8)) :
    (editLines (declare name) pending pieces).countP EditedLine.changed =
      (pending.package && pieces.any fun line => (Line.ofText (view line)).isPackage).toNat +
        (pending.type && pieces.any fun line => (Line.ofText (view line)).isType).toNat := by
  induction pieces generalizing pending with
  | nil => simp [editLines]
  | cons piece pieces ih =>
    have next : (declare name pending (view piece)).2 =
        (declareLine name pending (Line.ofText (view piece))).2 := by
      rw [declareLine_ofText]
    simp only [editLines, List.countP_cons, changed_declare, ih, next, List.any_cons]
    rcases pending with ⟨package, type⟩
    cases Line.ofText (view piece) with
    | package line =>
      cases package with
      | true => simp [declareLine, Line.isPackage, Line.isType, Nat.add_comm]
      | false => simp [declareLine, Line.isPackage, Line.isType]
    | importing line => simp [declareLine, Line.isPackage, Line.isType]
    | type line =>
      cases type with
      | true => simp [declareLine, Line.isPackage, Line.isType]
      | false => simp [declareLine, Line.isPackage, Line.isType]
    | other => simp [declareLine, Line.isPackage, Line.isType]

/-- Each of the two declarations is given another name once, if the file has it at all. -/
theorem linesChanged_declare (name : ClassName) (octets : List UInt8) :
    (Revision.ofOctets (declare name) {} octets).linesChanged =
      ((said octets).any Line.isPackage).toNat + ((said octets).any Line.isType).toNat := by
  simp [Revision.linesChanged, Revision.ofOctets, countP_changed_declare, said, List.any_map,
    Function.comp_def]

theorem countP_changed_reimport (old new : ClassName) (pieces : List (List UInt8)) :
    (editLines (reimport old new) () pieces).countP EditedLine.changed =
      pieces.countP fun line => (Line.ofText (view line)).importsClass old := by
  rw [editLines_reimport, List.countP_map]
  apply List.countP_congr
  intro piece _
  rw [Function.comp_apply, changed_importEdit]

/-- Every line that imports the class is pointed at the other one. -/
theorem linesChanged_reimport (old new : ClassName) (octets : List UInt8) :
    (Revision.ofOctets (reimport old new) () octets).linesChanged =
      (said octets).countP (Line.importsClass old) := by
  rw [Revision.linesChanged, Revision.ofOctets, countP_changed_reimport, said, List.countP_map]
  rfl

/-- A line that imports the class differs from what it is pointed at another class as. -/
theorem octets_importEdit_ne {old new : ClassName} (renamed : old ≠ new) {octets : List UInt8}
    (imports : (Line.ofText (view octets)).importsClass old = true) :
    (EditedLine.ofEdit octets (importEdit old new (view octets))).octets ≠ octets := by
  intro same
  rcases Line.ofText_cases (view octets) with
    ⟨line, said, -, -, -⟩ | ⟨line, said, read, -, -⟩ | ⟨line, said, -, -, -⟩ | ⟨said, -, -, -⟩
  · simp [said, Line.importsClass] at imports
  · simp only [said, Line.importsClass] at imports
    rcases Option.isSome_iff_exists.1 imports with ⟨suffix, imported⟩
    rcases ImportLine.severed read with ⟨start, severed⟩
    have shown := congrArg view same
    simp only [importEdit, read, imported] at shown
    rw [view_ofEdit_before severed, ← ImportLine.render] at shown
    have target := ImportLine.target_of_render read
      (by
        rw [ClassName.qualified, List.append_assoc]
        exact PackageLine.stops_name new.package_valid _) shown
    rw [(ImportLine.exists_pieces_of_importedClass
      (ImportLine.suffixOf?_eq_some_iff.1 imported)).1] at target
    exact renamed (ClassName.qualified_injective (List.append_cancel_right target))
  · simp [said, Line.importsClass] at imports
  · simp [said, Line.importsClass] at imports

/-- A file with a line that imports the class is changed. -/
theorem reimported_ne {old new : ClassName} (renamed : old ≠ new) {octets : List UInt8}
    (imports : 0 < (said octets).countP (Line.importsClass old)) :
    reimported old new octets ≠ octets := by
  intro same
  rcases List.countP_pos_iff.1 imports with ⟨line, listed, importing⟩
  rcases List.mem_map.1 listed with ⟨piece, member, rfl⟩
  -- the lines of the edited file are the edited lines, so none of them was changed
  have kept := lines_revision (reimport_gentle old new) () octets
  rw [show (Revision.ofOctets (reimport old new) () octets).octets = octets from same,
    editLines_reimport, List.map_map] at kept
  have fixed : (lines octets).map (fun line =>
      (EditedLine.ofEdit line (importEdit old new (view line))).octets) =
        (lines octets).map id := by
    rw [List.map_id]
    exact kept.symm
  exact octets_importEdit_ne renamed importing (List.map_inj_left.1 fixed piece member)

/-! ## Lines of a header -/

namespace Header

theorem any_isType_of_scanBody {package : Text} {number : Nat} {lines : List Line}
    {header : Header} (scanned : scanBody package number lines = .ok header) :
    lines.any Line.isType = true := by
  induction lines generalizing number header with
  | nil => cases scanned
  | cons line rest ih =>
    cases line with
    | other => exact ih scanned
    | package line => cases scanned
    | type line => rfl
    | importing line =>
      simp only [scanBody] at scanned
      cases behind : scanBody package (number + 1) rest with
      | error fault => simp [behind, Except.map] at scanned
      | ok inner => exact ih behind

/-- A file with a header has both declarations. -/
theorem any_of_scanFrom {number : Nat} {lines : List Line} {header : Header}
    (scanned : scanFrom number lines = .ok header) :
    lines.any Line.isPackage = true ∧ lines.any Line.isType = true := by
  induction lines generalizing number with
  | nil => cases scanned
  | cons line rest ih =>
    cases line with
    | other => exact ih scanned
    | package line =>
      have behind : rest.any Line.isType = true := any_isType_of_scanBody scanned
      exact ⟨rfl, behind⟩
    | type line => cases scanned
    | importing line => cases scanned

theorem count_imports_addImport (line : ImportLine) (header : Header) (name : ClassName) :
    (addImport line header).imports.count name =
      header.imports.count name + if (Line.importing line).importsClass name then 1 else 0 := by
  cases found : line.importedClass with
  | error failure => simp [addImport, Line.importsClass, ImportLine.suffixOf?, found]
  | ok pair =>
    rcases pair with ⟨imported, suffix⟩
    by_cases same : imported = name
    · simp [addImport, Line.importsClass, ImportLine.suffixOf?, found, same]
    · simp [addImport, Line.importsClass, ImportLine.suffixOf?, found, same]

theorem count_imports_of_scanBody {package : Text} {number : Nat} {lines : List Line}
    {header : Header} (scanned : scanBody package number lines = .ok header) (name : ClassName) :
    header.imports.count name ≤ lines.countP (Line.importsClass name) := by
  induction lines generalizing number header with
  | nil => cases scanned
  | cons line rest ih =>
    rw [List.countP_cons]
    cases line with
    | other => exact Nat.le_add_right_of_le (ih scanned)
    | package line => cases scanned
    | type line =>
      -- The imports end at the type, and lines behind it may import more.
      cases Except.ok.inj scanned
      exact Nat.zero_le _
    | importing line =>
      simp only [scanBody] at scanned
      cases behind : scanBody package (number + 1) rest with
      | error fault => simp [behind, Except.map] at scanned
      | ok inner =>
        simp only [behind, Except.map, Except.ok.injEq] at scanned
        subst scanned
        rw [count_imports_addImport]
        exact Nat.add_le_add_right (ih behind) _

/-- A header lists a class at most as often as lines import it. -/
theorem count_imports_of_scanFrom {number : Nat} {lines : List Line} {header : Header}
    (scanned : scanFrom number lines = .ok header) (name : ClassName) :
    header.imports.count name ≤ lines.countP (Line.importsClass name) := by
  induction lines generalizing number with
  | nil => cases scanned
  | cons line rest ih =>
    rw [List.countP_cons]
    cases line with
    | other => exact Nat.le_add_right_of_le (ih scanned)
    | package line => exact Nat.le_add_right_of_le (count_imports_of_scanBody scanned name)
    | type line => cases scanned
    | importing line => cases scanned

end Header

/-- A file that declares a class has both its declarations changed. -/
theorem linesChanged_declare_of_declaration {octets : List UInt8} {old : ClassName}
    {imports : List ClassName} (found : declaration? octets = some (old, imports))
    (new : ClassName) : (Revision.ofOctets (declare new) {} octets).linesChanged = 2 := by
  rcases Header.any_of_scanFrom (declaration?_eq_some_iff.1 found) with ⟨package, type⟩
  rw [linesChanged_declare, said, package, type]
  rfl

/-- A file that declares a class has all the imports changed that it is known for. -/
theorem count_le_linesChanged_reimport {octets : List UInt8} {name : ClassName}
    {imports : List ClassName} (found : declaration? octets = some (name, imports))
    (old new : ClassName) :
    imports.count old ≤ (Revision.ofOctets (reimport old new) () octets).linesChanged := by
  rw [linesChanged_reimport]
  exact Header.count_imports_of_scanFrom (declaration?_eq_some_iff.1 found) old

/-! ## Editing a file -/

namespace FileSystem

variable {files : FileSystem} {path : Path} {octets : List UInt8}

theorem edit_of_read {Memory : Type} (read : files.read path = .ok octets) (preview : Bool)
    (editor : Editor Memory) (memory : Memory) :
    files.edit path preview editor memory =
      .ok (Revision.ofOctets editor memory octets,
        if preview then files
        else files.writeAt (files.locationOf path)
          (Revision.ofOctets editor memory octets).octets) := by
  rw [edit, read]
  simp only [overwrite_of_read read]

/-- Editing the declarations of a file, by any spelling of its path. -/
theorem editDeclarations_of_read (read : files.read path = .ok octets) (name : ClassName)
    (preview : Bool) :
    files.editDeclarations path name preview =
      .ok ((Revision.ofOctets (declare name) {} octets).linesChanged,
        if preview then files
        else files.writeAt (files.locationOf path) (declared name octets)) := by
  rw [editDeclarations, edit_of_read read]
  rfl

/-- Editing the imports of a file, by any spelling of its path. -/
theorem editImports_of_read (read : files.read path = .ok octets) (old new : ClassName)
    (preview : Bool) :
    files.editImports path old new preview =
      .ok ((Revision.ofOctets (reimport old new) () octets).linesChanged,
        if preview then files
        else files.writeAt (files.locationOf path) (reimported old new octets)) := by
  rw [editImports, edit_of_read read]
  rfl

end FileSystem

end ClassMove
