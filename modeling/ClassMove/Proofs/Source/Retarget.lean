import ClassMove.Proofs.Line.Basic
import ClassMove.Proofs.Source.Edit
import ClassMove.Source.Header
import ClassMove.Source.Retarget

/-!
# Headers after editing

Giving a file the declarations of another class and pointing its imports at another
class are both gentle, so the edited file is read line by line like the old one.
What a line says afterwards depends only on what it said before.  So the header of
the edited file is known from the header of the old one: declarations take the names
of the new class and imports stay, or imports of the old class become imports of the
new one in their places and all else stays.  Declarations stay even where the new class
is one that cannot be imported.
-/

namespace ClassMove

open Utf8

/-! ## Lines are severed behind their names -/

theorem IsGap.replacement_notMem {gap : Text} (isGap : IsGap gap) : replacement ∉ gap :=
  Text.notMem_of_forall isGap.blank (by decide)

namespace PackageLine

theorem severed {line : Text} {found : PackageLine} (read : ofLine? line = some found) :
    ∃ start, Severed line (start ++ found.name) found.tail := by
  rcases ofLine?_eq_some_iff.1 read with
    ⟨mark, indent, gap, isMark, indented, isGap, valid, -, -, rfl⟩
  have marked : replacement ∉ mark := by rcases isMark with rfl | rfl <;> decide
  have noIndent : replacement ∉ indent := Text.notMem_of_forall indented (by decide)
  have noKeyword : replacement ∉ keyword := by decide
  refine ⟨mark ++ (indent ++ (keyword ++ gap)), ?_⟩
  have sound : replacement ∉ mark ++ (indent ++ (keyword ++ gap)) := by
    simp [marked, noIndent, noKeyword, isGap.replacement_notMem]
  simpa using Severed.of_name sound (isPackageName_ne_nil valid)
    (fun _ => isNameChar_of_mem valid) (by decide) (by decide)

theorem newline_notMem_head {line : Text} {found : PackageLine} (read : ofLine? line = some found)
    {name : Text} (plain : '\n' ∉ name) : '\n' ∉ found.head name := by
  rcases ofLine?_eq_some_iff.1 read with ⟨mark, indent, -, isMark, indented, -, -, -, shown, -⟩
  have marked : '\n' ∉ mark := by rcases isMark with rfl | rfl <;> decide
  have noIndent : '\n' ∉ indent := Text.notMem_of_forall indented (by decide)
  have noKeyword : '\n' ∉ keyword := by decide
  simp [head, shown, marked, noIndent, noKeyword, plain]

end PackageLine

namespace ImportLine

theorem severed {line : Text} {found : ImportLine} (read : ofLine? line = some found) :
    ∃ start, Severed line (start ++ found.target) found.tail := by
  rcases ofLine?_eq_some_iff.1 read with ⟨gap, between, indented, isGap, isBetween, valid, -, rfl⟩
  have noIndent : replacement ∉ found.indent := Text.notMem_of_forall indented (by decide)
  have noKeyword : replacement ∉ keyword := by decide
  have noStatic : replacement ∉ (if found.isStatic then staticKeyword ++ between else []) := by
    split
    · have noWord : replacement ∉ staticKeyword := by decide
      simp [noWord, isBetween.replacement_notMem]
    · simp
  generalize (if found.isStatic then staticKeyword ++ between else []) = static at noStatic ⊢
  refine ⟨found.indent ++ (keyword ++ gap ++ static), ?_⟩
  have sound : replacement ∉ found.indent ++ (keyword ++ gap ++ static) := by
    simp [noIndent, noKeyword, noStatic, isGap.replacement_notMem]
  simpa using Severed.of_name sound (isDottedIdentifier_ne_nil valid)
    (fun _ => isTargetChar_of_mem valid) (by decide +kernel) (by decide)

theorem newline_notMem_head {line : Text} {found : ImportLine} (read : ofLine? line = some found)
    {target : Text} (plain : '\n' ∉ target) : '\n' ∉ found.head target := by
  rcases ofLine?_eq_some_iff.1 read with ⟨-, -, indented, -, -, -, -, -⟩
  have noIndent : '\n' ∉ found.indent := Text.notMem_of_forall indented (by decide)
  have noKeyword : '\n' ∉ keyword := by decide
  have noStatic : '\n' ∉ found.modifiers := by
    rw [modifiers]
    split
    · decide
    · simp
  simp [head, noIndent, noKeyword, noStatic, plain]

end ImportLine

namespace TypeLine

theorem severed {line : Text} {found : TypeLine} (read : ofLine? line = some found) :
    ∃ start, Severed line (start ++ found.name) found.tail := by
  rcases ofLine?_eq_some_iff.1 read with
    ⟨modifiers, gap, indented, gaps, isGap, valid, -, -, rfl⟩
  have noIndent : replacement ∉ found.indent := Text.notMem_of_forall indented (by decide)
  have noModifier : replacement ∉ joinModifiers modifiers := by
    rw [joinModifiers, List.mem_flatMap]
    rintro ⟨⟨modifier, between⟩, listed, member⟩
    rcases List.mem_append.1 member with inWord | inGap
    · cases modifier <;> exact absurd inWord (by decide)
    · exact (gaps _ listed).replacement_notMem inGap
  have noKind : replacement ∉ found.kind.word := by cases found.kind <;> decide
  refine ⟨found.indent ++ (joinModifiers modifiers ++ (found.kind.word ++ gap)), ?_⟩
  have sound : replacement ∉ found.indent ++ (joinModifiers modifiers ++
      (found.kind.word ++ gap)) := by
    simp [noIndent, noModifier, noKind, isGap.replacement_notMem]
  simpa using Severed.of_name sound (isIdentifier_ne_nil valid)
    (fun _ => isIdentifierRest_of_mem valid) (by decide +kernel) (by decide)

theorem newline_notMem_head {line : Text} {found : TypeLine} (read : ofLine? line = some found)
    {name : Text} (plain : '\n' ∉ name) : '\n' ∉ found.head name := by
  rcases ofLine?_eq_some_iff.1 read with ⟨-, -, indented, -, -, -, -, -, -⟩
  have noIndent : '\n' ∉ found.indent := Text.notMem_of_forall indented (by decide)
  have noModifier : '\n' ∉ found.modifiers.flatMap (·.word ++ [' ']) := by
    rw [List.mem_flatMap]
    rintro ⟨modifier, -, member⟩
    cases modifier <;> exact absurd member (by decide)
  have noKind : '\n' ∉ found.kind.word := by cases found.kind <;> decide
  simp [head, noIndent, noModifier, noKind, plain]

end TypeLine

/-! ## Both editors are gentle -/

namespace ClassName

theorem newline_notMem_package (name : ClassName) : '\n' ∉ name.package :=
  Text.notMem_of_forall (fun _ => PackageLine.isNameChar_of_mem name.package_valid) (by decide)

theorem newline_notMem_simple (name : ClassName) : '\n' ∉ name.simple :=
  Text.notMem_of_forall
    (fun _ => isIdentifierRest_of_mem (isIdentifier_of_isSimpleName name.simple_valid)) (by decide)

end ClassName

theorem declareType_gentle (name : ClassName) : Editor.Gentle (declareType name) := by
  intro pending line
  simp only [declareType]
  split
  · next found read =>
    split
    · rcases TypeLine.severed read with ⟨start, severed⟩
      exact .before severed _ (by simp [TypeLine.head])
        (TypeLine.newline_notMem_head read name.newline_notMem_simple)
    · exact .keep
  · exact .keep

theorem declare_gentle (name : ClassName) : Editor.Gentle (declare name) := by
  intro pending line
  simp only [declare]
  split
  · next found read =>
    split
    · rcases PackageLine.severed read with ⟨start, severed⟩
      exact .before severed _ (by simp [PackageLine.head])
        (PackageLine.newline_notMem_head read name.newline_notMem_package)
    · exact declareType_gentle name pending line
  · exact declareType_gentle name pending line

theorem reimport_gentle (old new : ClassName) : Editor.Gentle (reimport old new) := by
  intro memory line
  simp only [reimport, importEdit]
  split
  · exact .keep
  · next found read =>
    split
    · exact .keep
    · next suffix imported =>
      have targeted := (ImportLine.exists_pieces_of_importedClass
        (ImportLine.suffixOf?_eq_some_iff.1 imported)).1
      have valid := ImportLine.isDottedIdentifier_target read
      have noTarget : '\n' ∉ found.target :=
        Text.notMem_of_forall (fun _ => ImportLine.isTargetChar_of_mem valid) (by decide)
      have plain : '\n' ∉ new.qualified ++ suffix := by
        rw [targeted] at noTarget
        simp only [List.mem_append, not_or] at noTarget
        simp [ClassName.qualified, new.newline_notMem_package, new.newline_notMem_simple, noTarget]
      rcases ImportLine.severed read with ⟨start, severed⟩
      exact .before severed _ (by simp [ImportLine.head])
        (ImportLine.newline_notMem_head read plain)

/-! ## Declarations -/

/-- What a line says after its declaration was edited, and which declarations are still to come. -/
def declareLine (name : ClassName) (pending : Pending) : Line → Line × Pending
  | .package line =>
    if pending.package then
      (.package { line with name := name.package }, { pending with package := false })
    else (.package line, pending)
  | .type line =>
    if pending.type then (.type { line with name := name.simple }, { pending with type := false })
    else (.type line, pending)
  | line => (line, pending)

theorem declareLine_ofText (name : ClassName) (pending : Pending) (octets : List UInt8) :
    declareLine name pending (Line.ofText (view octets)) =
      (Line.ofText (view (EditedLine.ofEdit octets (declare name pending (view octets)).1).octets),
        (declare name pending (view octets)).2) := by
  rcases Line.ofText_cases (view octets) with
    ⟨line, said, read, -, noType⟩ | ⟨line, said, -, noPackage, noType⟩ |
      ⟨line, said, read, noPackage, -⟩ | ⟨said, noPackage, -, noType⟩
  · by_cases first : pending.package = true
    · rcases PackageLine.severed read with ⟨start, severed⟩
      simp only [said, declareLine, declare, read, first, ↓reduceIte]
      rw [view_ofEdit_before severed, ← PackageLine.render,
        Line.ofText_of_package (PackageLine.ofLine?_render read name.package_valid)]
    · simp [said, declareLine, declare, declareType, read, noType, first, EditedLine.ofEdit,
        Edit.applied?]
  · simp [said, declareLine, declare, declareType, noPackage, noType, EditedLine.ofEdit,
      Edit.applied?]
  · by_cases first : pending.type = true
    · rcases TypeLine.severed read with ⟨start, severed⟩
      simp only [said, declareLine, declare, declareType, noPackage, read, first, ↓reduceIte]
      rw [view_ofEdit_before severed, ← TypeLine.render,
        Line.ofText_of_type
          (TypeLine.ofLine?_render read (isIdentifier_of_isSimpleName name.simple_valid))]
    · simp [said, declareLine, declare, declareType, read, noPackage, first, EditedLine.ofEdit,
        Edit.applied?]
  · simp [said, declareLine, declare, declareType, noPackage, noType, EditedLine.ofEdit,
      Edit.applied?]

/-- What lines say after their declarations were edited. -/
def declareLines (name : ClassName) : Pending → List Line → List Line
  | _, [] => []
  | pending, line :: rest =>
    (declareLine name pending line).1 :: declareLines name (declareLine name pending line).2 rest

theorem map_ofText_declared (name : ClassName) (pending : Pending) (pieces : List (List UInt8)) :
    (editLines (declare name) pending pieces).map (fun line => Line.ofText (view line.octets)) =
      declareLines name pending (pieces.map fun line => Line.ofText (view line)) := by
  induction pieces generalizing pending with
  | nil => rfl
  | cons piece pieces ih =>
    simp only [editLines, List.map_cons, declareLines, declareLine_ofText]
    rw [ih]

namespace Header

/-- Behind the package line only the first type line takes another name. -/
theorem scanBody_declareLines (name : ClassName) {package : Text} {number : Nat}
    {lines : List Line} {header : Header} (scanned : scanBody package number lines = .ok header)
    (package' : Text) :
    scanBody package' number (declareLines name { package := false } lines) =
      .ok ⟨package', header.imports, name.simple⟩ := by
  induction lines generalizing number header with
  | nil => cases scanned
  | cons line rest ih =>
    cases line with
    | other => exact ih scanned
    | package line => cases scanned
    | type line =>
      cases Except.ok.inj scanned
      rfl
    | importing line =>
      simp only [scanBody] at scanned
      cases behind : scanBody package (number + 1) rest with
      | error fault => simp [behind, Except.map] at scanned
      | ok inner =>
        simp only [behind, Except.map, Except.ok.injEq] at scanned
        subst scanned
        simp only [declareLines, declareLine, scanBody, ih behind, Except.map]
        congr 1
        simp only [addImport]
        split
        · rfl
        · rfl

/-- The package line and the first type line take other names, and the imports stay. -/
theorem scanFrom_declareLines (name : ClassName) {number : Nat} {lines : List Line}
    {header : Header} (scanned : scanFrom number lines = .ok header) :
    scanFrom number (declareLines name {} lines) =
      .ok ⟨name.package, header.imports, name.simple⟩ := by
  induction lines generalizing number with
  | nil => cases scanned
  | cons line rest ih =>
    cases line with
    | other => exact ih scanned
    | package line => exact scanBody_declareLines name scanned name.package
    | type line => cases scanned
    | importing line => cases scanned

end Header

/-- The octets of a file that is to declare another class. -/
def declared (name : ClassName) (octets : List UInt8) : List UInt8 :=
  (Revision.ofOctets (declare name) {} octets).octets

/-- A file with a header has, once its declarations were edited, the header of the other class
with the same imports. -/
theorem Header.ofOctets_declared (name : ClassName) {octets : List UInt8} {header : Header}
    (scanned : Header.ofOctets octets = .ok header) :
    Header.ofOctets (declared name octets) = .ok ⟨name.package, header.imports, name.simple⟩ := by
  rw [Header.ofOctets, declared, lines_revision (declare_gentle name), List.map_map]
  have said := map_ofText_declared name {} (lines octets)
  simp only [Function.comp_def]
  rw [said]
  exact scanFrom_declareLines name scanned

/-! ## Imports -/

/-- The class that an import names once imports of `old` name `new`. -/
def ClassName.repoint (old new name : ClassName) : ClassName :=
  if name = old then new else name

/-- What a line says after its import was edited. -/
def reimportLine (old new : ClassName) : Line → Line
  | .importing line =>
    match line.suffixOf? old with
    | some suffix => .importing { line with target := new.qualified ++ suffix }
    | none => .importing line
  | line => line

theorem reimportLine_ofText {old new : ClassName} (importable : new.Importable)
    (octets : List UInt8) :
    Line.ofText (view (EditedLine.ofEdit octets (importEdit old new (view octets))).octets) =
      reimportLine old new (Line.ofText (view octets)) := by
  rcases Line.ofText_cases (view octets) with
    ⟨line, said, -, noImport, -⟩ | ⟨line, said, read, -, -⟩ | ⟨line, said, -, -, noImport⟩ |
      ⟨said, -, noImport, -⟩
  · simp [said, reimportLine, importEdit, noImport, EditedLine.ofEdit, Edit.applied?]
  · cases imported : line.suffixOf? old with
    | none => simp [said, reimportLine, importEdit, read, imported, EditedLine.ofEdit,
        Edit.applied?]
    | some suffix =>
      have target := ImportLine.isDottedIdentifier_retarget
        (ImportLine.isDottedIdentifier_target read)
        (ImportLine.suffixOf?_eq_some_iff.1 imported) importable
      rcases ImportLine.severed read with ⟨start, severed⟩
      simp only [said, reimportLine, importEdit, read, imported]
      rw [view_ofEdit_before severed, ← ImportLine.render,
        Line.ofText_of_import (ImportLine.ofLine?_render read target)]
  · simp [said, reimportLine, importEdit, noImport, EditedLine.ofEdit, Edit.applied?]
  · simp [said, reimportLine, importEdit, noImport, EditedLine.ofEdit, Edit.applied?]

theorem editLines_reimport (old new : ClassName) (pieces : List (List UInt8)) :
    editLines (reimport old new) () pieces =
      pieces.map fun line => EditedLine.ofEdit line (importEdit old new (view line)) := by
  induction pieces with
  | nil => rfl
  | cons piece pieces ih =>
    simp only [editLines, reimport, List.map_cons] at ih ⊢
    rw [ih]

theorem map_ofText_reimported (old : ClassName) {new : ClassName} (importable : new.Importable)
    (pieces : List (List UInt8)) :
    (editLines (reimport old new) () pieces).map (fun line => Line.ofText (view line.octets)) =
      (pieces.map fun line => Line.ofText (view line)).map (reimportLine old new) := by
  rw [editLines_reimport, List.map_map, List.map_map]
  apply List.map_congr_left
  intro piece _
  exact reimportLine_ofText importable piece

namespace Header

/-- The header of a file once imports of `old` name `new`. -/
def repoint (old new : ClassName) (header : Header) : Header :=
  { header with imports := header.imports.map (ClassName.repoint old new) }

theorem importedClass_of_suffixOf?_eq_none {line : ImportLine} {old name : ClassName}
    {suffix : Text} (other : line.suffixOf? old = none)
    (imported : line.importedClass = .ok (name, suffix)) : name ≠ old := by
  rintro rfl
  rw [ImportLine.suffixOf?_eq_some_iff.2 imported] at other
  cases other

/-- An import line whose import followed adds the class that the old line adds, under the name
that it has now. -/
theorem exists_reimportLine_importing (old : ClassName) {new : ClassName}
    (upper : new.simple.startsUpper = true) (line : ImportLine) :
    ∃ edited, reimportLine old new (.importing line) = .importing edited ∧
      ∀ header, addImport edited (repoint old new header) =
        repoint old new (addImport line header) := by
  simp only [reimportLine]
  cases imported : line.suffixOf? old with
  | some suffix =>
    refine ⟨_, rfl, ?_⟩
    intro header
    have found := ImportLine.suffixOf?_eq_some_iff.1 imported
    simp [addImport, found, ImportLine.importedClass_retarget found upper, repoint,
      ClassName.repoint]
  | none =>
    refine ⟨line, rfl, ?_⟩
    intro header
    simp only [addImport]
    split
    · next name suffix found =>
      simp [repoint, ClassName.repoint, importedClass_of_suffixOf?_eq_none imported found]
    · rfl

theorem scanBody_reimportLine {old new : ClassName} (upper : new.simple.startsUpper = true)
    (package : Text) (number : Nat) (lines : List Line) :
    scanBody package number (lines.map (reimportLine old new)) =
      (scanBody package number lines).map (repoint old new) := by
  induction lines generalizing number with
  | nil => rfl
  | cons line rest ih =>
    cases line with
    | other => exact ih (number + 1)
    | package line => rfl
    | type line => rfl
    | importing line =>
      rcases exists_reimportLine_importing old upper line with ⟨edited, same, added⟩
      simp only [List.map_cons, same, scanBody, ih]
      cases scanBody package (number + 1) rest with
      | error fault => rfl
      | ok header =>
        simp only [Except.map]
        rw [added]

theorem scanFrom_reimportLine {old new : ClassName} (upper : new.simple.startsUpper = true)
    (number : Nat) (lines : List Line) :
    scanFrom number (lines.map (reimportLine old new)) =
      (scanFrom number lines).map (repoint old new) := by
  induction lines generalizing number with
  | nil => rfl
  | cons line rest ih =>
    cases line with
    | other => exact ih (number + 1)
    | package line => exact scanBody_reimportLine upper line.name (number + 1) rest
    | type line => rfl
    | importing line =>
      simp only [List.map_cons, reimportLine]
      split
      · rfl
      · rfl

end Header

/-- The octets of a file whose imports of `old` are to name `new`. -/
def reimported (old new : ClassName) (octets : List UInt8) : List UInt8 :=
  (Revision.ofOctets (reimport old new) () octets).octets

/-- Pointing imports at an importable class changes them in their places, and nothing else that a
header says. -/
theorem Header.ofOctets_reimported {old new : ClassName} (importable : new.Importable)
    (octets : List UInt8) :
    Header.ofOctets (reimported old new octets) =
      (Header.ofOctets octets).map (Header.repoint old new) := by
  rw [Header.ofOctets, reimported, lines_revision (reimport_gentle old new), List.map_map]
  have said := map_ofText_reimported old importable (lines octets)
  simp only [Function.comp_def]
  rw [said]
  exact scanFrom_reimportLine importable.startsUpper 1 _

/-! ## Imports of classes that cannot be imported

A class whose package begins with a digit, or whose name is not capitalised, may not be
read again from an import line.  The line then says nothing, or names another class, but
it is no declaration. -/

/-- Does a line say what it said, or was it an import and is now at most an import? -/
def Line.Loosens (edited line : Line) : Prop :=
  edited = line ∨
    (∃ found, line = .importing found) ∧ (edited = .other ∨ ∃ found, edited = .importing found)

theorem ImportLine.firstWord_head {line : Text} {found : ImportLine}
    (read : ofLine? line = some found) (target rest : Text) :
    firstWord (found.head target ++ rest) = keyword := by
  rcases ofLine?_eq_some_iff.1 read with ⟨-, -, indented, -, -, -, -, -⟩
  have cut : found.head target ++ rest =
      found.indent ++ (keyword ++ ([' '] ++ (found.modifiers ++ target ++ rest))) := by
    simp [head]
  rw [cut]
  exact firstWord_append indented (forall_mem_of_all (by decide)) (by decide) isGap_space

/-- Pointing imports at any class loosens each line. -/
theorem loosens_importEdit (old new : ClassName) (octets : List UInt8) :
    (Line.ofText
      (view (EditedLine.ofEdit octets (importEdit old new (view octets))).octets)).Loosens
        (Line.ofText (view octets)) := by
  cases read : ImportLine.ofLine? (view octets) with
  | none => exact .inl (by simp [importEdit, read, EditedLine.ofEdit, Edit.applied?])
  | some line =>
    cases imported : line.suffixOf? old with
    | none => exact .inl (by simp [importEdit, read, imported, EditedLine.ofEdit, Edit.applied?])
    | some suffix =>
      right
      refine ⟨⟨line, Line.ofText_of_import read⟩, ?_⟩
      rcases ImportLine.severed read with ⟨start, severed⟩
      simp only [importEdit, read, imported]
      rw [view_ofEdit_before severed]
      exact Line.ofText_of_firstWord (ImportLine.firstWord_head read _ _)

namespace Header

section Loosens

variable {Piece : Type} {edited line : Piece → Line}

theorem scanBody_loosened (loosens : ∀ piece, (edited piece).Loosens (line piece))
    {package : Text} {number : Nat} {pieces : List Piece} {header : Header}
    (scanned : scanBody package number (pieces.map line) = .ok header) :
    ∃ imports, scanBody package number (pieces.map edited) = .ok { header with imports } := by
  induction pieces generalizing number header with
  | nil => cases scanned
  | cons piece pieces ih =>
    rw [List.map_cons] at scanned ⊢
    -- Only import lines may have changed, and they add imports at most.
    have importing : ∀ found, line piece = .importing found →
        ∃ imports, scanBody package (number + 1) (pieces.map edited) =
          .ok { header with imports } := by
      intro found said
      rw [said, scanBody] at scanned
      cases behind : scanBody package (number + 1) (pieces.map line) with
      | error fault => simp [behind, Except.map] at scanned
      | ok inner =>
        simp only [behind, Except.map, Except.ok.injEq] at scanned
        rcases ih behind with ⟨imports, same⟩
        refine ⟨imports, ?_⟩
        rw [same, ← scanned, addImport]
        split
        · rfl
        · rfl
    have added : ∀ found, line piece = .importing found → ∀ found',
        ∃ imports, scanBody package number (.importing found' :: pieces.map edited) =
          .ok { header with imports } := by
      intro found said found'
      rcases importing found said with ⟨imports, same⟩
      rw [scanBody, same]
      simp only [Except.map, addImport]
      split
      · exact ⟨_, rfl⟩
      · exact ⟨_, rfl⟩
    rcases loosens piece with same | ⟨⟨found, said⟩, other | ⟨found', importing'⟩⟩
    · rw [same]
      cases said : line piece with
      | other =>
        rw [said] at scanned
        exact ih scanned
      | package found =>
        rw [said] at scanned
        cases scanned
      | type found =>
        rw [said] at scanned
        cases Except.ok.inj scanned
        exact ⟨[], rfl⟩
      | importing found => exact added found said found
    · rw [other]
      exact importing found said
    · rw [importing']
      exact added found said found'

/-- Loosened lines declare what the lines did. -/
theorem scanFrom_loosened (loosens : ∀ piece, (edited piece).Loosens (line piece))
    {number : Nat} {pieces : List Piece} {header : Header}
    (scanned : scanFrom number (pieces.map line) = .ok header) :
    ∃ imports, scanFrom number (pieces.map edited) = .ok { header with imports } := by
  induction pieces generalizing number with
  | nil => cases scanned
  | cons piece pieces ih =>
    rw [List.map_cons] at scanned ⊢
    rcases loosens piece with same | ⟨⟨found, said⟩, -⟩
    · rw [same]
      cases said : line piece with
      | other =>
        rw [said] at scanned
        exact ih scanned
      | package found =>
        rw [said] at scanned
        exact scanBody_loosened loosens scanned
      | type found =>
        rw [said] at scanned
        cases scanned
      | importing found =>
        rw [said] at scanned
        cases scanned
    · rw [said] at scanned
      cases scanned

end Loosens

end Header

/-- Pointing imports at any class leaves the declarations of a file. -/
theorem Header.exists_ofOctets_reimported (old new : ClassName) {octets : List UInt8}
    {header : Header} (scanned : Header.ofOctets octets = .ok header) :
    ∃ imports, Header.ofOctets (reimported old new octets) = .ok { header with imports } := by
  rw [Header.ofOctets, reimported, lines_revision (reimport_gentle old new), editLines_reimport,
    List.map_map, List.map_map]
  exact scanFrom_loosened (loosens_importEdit old new) scanned

end ClassMove
