import ClassMove.Proofs.Source.Changes
import Mathlib.Data.List.Forall2

/-!
# Import edits, one after another

Pointing imports of a class at a second one and then at a third is pointing them at the
third at once, if the second can be imported and the file did not import it.  The line
in between is read again: its target is the second class with the same pieces behind it,
and its tail, with all its octets, is the old one.

So pointing imports elsewhere and back leaves the file as it was, up to the white space
in front of the targets.
-/

namespace ClassMove

open Utf8

/-! ## One line -/

namespace EditedLine

/-- A line once its import of `old`, if it is one, names `new`. -/
def reimported (old new : ClassName) (octets : List UInt8) : EditedLine :=
  .ofEdit octets (importEdit old new (view octets))

theorem reimported_of_other {old : ClassName} {octets : List UInt8}
    (other : (Line.ofText (view octets)).importsClass old = false) (new : ClassName) :
    reimported old new octets = ⟨octets, false⟩ := by
  have kept : importEdit old new (view octets) = .keep := by
    rw [importEdit]
    split
    · rfl
    · next found read =>
      rw [Line.ofText_of_import read, Line.importsClass, Option.isSome_eq_false_iff,
        Option.isNone_iff_eq_none] at other
      rw [other]
  rw [reimported, kept]
  rfl

/-- An import line takes another target in front of the octets of its tail. -/
theorem reimported_of_import {old : ClassName} {front suffix : Text} {rest : List UInt8}
    {found : ImportLine} (read : ImportLine.ofLine? (view (encode front ++ rest)) = some found)
    (shown : view rest = found.tail) (imported : found.suffixOf? old = some suffix)
    (new : ClassName) :
    reimported old new (encode front ++ rest) =
      ⟨encode (found.head (new.qualified ++ suffix)) ++ rest, true⟩ := by
  rw [reimported, importEdit, read]
  simp only [imported]
  rw [← shown, ofEdit, Edit.applied?_before_encode]

/-- A line that imports a class has a tail, and its octets in front of the tail encode a text. -/
theorem exists_cut_of_importsClass {name : ClassName} {octets : List UInt8}
    (imports : (Line.ofText (view octets)).importsClass name = true) :
    ∃ found suffix start rest, ImportLine.ofLine? (view octets) = some found ∧
      found.suffixOf? name = some suffix ∧ octets = encode (start ++ found.target) ++ rest ∧
      view rest = found.tail := by
  rcases Line.ofText_cases (view octets) with
    ⟨found, said, -, -, -⟩ | ⟨found, said, read, -, -⟩ | ⟨found, said, -, -, -⟩ | ⟨said, -, -, -⟩
  · simp [said, Line.importsClass] at imports
  · simp only [said, Line.importsClass] at imports
    rcases Option.isSome_iff_exists.1 imports with ⟨suffix, imported⟩
    rcases ImportLine.severed read with ⟨start, severed⟩
    rcases exists_rest_of_view_eq_append severed.joined severed.sound with ⟨rest, cut, shown⟩
    exact ⟨found, suffix, start, rest, read, imported, cut, shown⟩
  · simp [said, Line.importsClass] at imports
  · simp [said, Line.importsClass] at imports

/-- Pointing a line at a second class and then at a third is pointing it at the third. -/
theorem reimported_reimported {first second : ClassName} (importable : second.Importable)
    {octets : List UInt8} (unused : (Line.ofText (view octets)).importsClass second = false)
    (third : ClassName) :
    reimported second third (reimported first second octets).octets =
      reimported first third octets := by
  cases imports : (Line.ofText (view octets)).importsClass first with
  | false =>
    rw [reimported_of_other imports, reimported_of_other imports, reimported_of_other unused]
  | true =>
    rcases exists_cut_of_importsClass imports with
      ⟨found, suffix, start, rest, read, imported, rfl, shown⟩
    rw [reimported_of_import read shown imported, reimported_of_import read shown imported]
    have named := ImportLine.suffixOf?_eq_some_iff.1 imported
    have valid := ImportLine.isDottedIdentifier_target read
    -- the line in between, read again
    have readAgain : ImportLine.ofLine?
        (view (encode (found.head (second.qualified ++ suffix)) ++ rest)) =
          some { found with target := second.qualified ++ suffix } := by
      rw [view_encode_append, shown]
      exact ImportLine.ofLine?_render read
        (ImportLine.isDottedIdentifier_retarget valid named importable)
    have importedAgain : ImportLine.suffixOf?
        { found with target := second.qualified ++ suffix } second = some suffix :=
      ImportLine.suffixOf?_eq_some_iff.2
        (ImportLine.importedClass_retarget named importable.startsUpper)
    exact reimported_of_import readAgain shown importedAgain third

end EditedLine

/-! ## All lines -/

theorem revision_reimport (old new : ClassName) (octets : List UInt8) :
    Revision.ofOctets (reimport old new) () octets =
      ⟨(lines octets).map (EditedLine.reimported old new)⟩ := by
  rw [Revision.ofOctets, editLines_reimport]
  rfl

theorem lines_reimported (old new : ClassName) (octets : List UInt8) :
    lines (reimported old new octets) =
      (lines octets).map fun line => (EditedLine.reimported old new line).octets := by
  rw [reimported, lines_revision (reimport_gentle old new), editLines_reimport, List.map_map]
  rfl

/-- Pointing the imports of a file at a second class and then at a third is pointing them at the
third, line by line. -/
theorem revision_reimport_reimport {second : ClassName} (importable : second.Importable)
    {octets : List UInt8} (unused : ∀ line ∈ said octets, line.importsClass second = false)
    (first third : ClassName) :
    Revision.ofOctets (reimport second third) () (reimported first second octets) =
      Revision.ofOctets (reimport first third) () octets := by
  rw [revision_reimport, revision_reimport, lines_reimported, List.map_map, Revision.mk.injEq]
  apply List.map_congr_left
  intro line member
  exact EditedLine.reimported_reimported importable (unused _ (List.mem_map_of_mem member)) third

/-- Is a line the old one, up to the white space in front of the target of an import? -/
def Respaced (old new : List UInt8) : Prop :=
  new = old ∨ ∃ found, ImportLine.ofLine? (view old) = some found ∧
    Renamed old new found.target (found.head found.target) found.tail

/-- Pointing imports at the class that they name changes white space only. -/
theorem respaced_reimported (name : ClassName) (octets : List UInt8) :
    Respaced octets (EditedLine.reimported name name octets).octets := by
  cases imports : (Line.ofText (view octets)).importsClass name with
  | false => exact .inl (by rw [EditedLine.reimported_of_other imports])
  | true =>
    right
    rcases EditedLine.exists_cut_of_importsClass imports with
      ⟨found, suffix, start, rest, read, imported, rfl, shown⟩
    have targeted := (ImportLine.exists_pieces_of_importedClass
      (ImportLine.suffixOf?_eq_some_iff.1 imported)).1
    refine ⟨found, read, start, rest, rfl, ?_, shown⟩
    rw [EditedLine.reimported_of_import read shown imported, ← targeted]

theorem forall₂_respaced_reimported (name : ClassName) (octets : List UInt8) :
    List.Forall₂ Respaced (lines octets) (lines (reimported name name octets)) := by
  rw [lines_reimported, List.forall₂_map_right_iff, List.forall₂_same]
  intro line _
  exact respaced_reimported name line

/-! ## Editing the imports of a file -/

/-- Letting a file import a second class in place of a first, and then a third in place of the
second, changes as many lines each time, and leaves the same tree, as letting it import the third in
place of the first.  Where the third is the first again, only white space is not restored. -/
theorem editImports_compose {files : FileSystem} {path : Path} {octets : List UInt8}
    (read : files.read path = .ok octets) {second : ClassName} (importable : second.Importable)
    (unused : ∀ line ∈ said octets, line.importsClass second = false) (first third : ClassName) :
    ∃ count once twice direct result,
      files.editImports path first second false = .ok (count, once) ∧
      once.editImports path second third false = .ok (count, twice) ∧
      files.editImports path first third false = .ok (count, direct) ∧
      twice.read path = .ok result ∧ direct.read path = .ok result ∧
      (∀ location, twice.entryAt? location = direct.entryAt? location) ∧
      (third = first → List.Forall₂ Respaced (lines octets) (lines result)) := by
  have same := revision_reimport_reimport importable unused first third
  have composed : reimported second third (reimported first second octets) =
      reimported first third octets := congrArg Revision.octets same
  have held := FileSystem.entryAt?_of_read read
  have written := FileSystem.read_writeAt read (reimported first second octets)
  refine ⟨(said octets).countP (Line.importsClass first),
    files.writeAt (files.locationOf path) (reimported first second octets),
    (files.writeAt (files.locationOf path) (reimported first second octets)).writeAt
      (files.locationOf path) (reimported first third octets),
    files.writeAt (files.locationOf path) (reimported first third octets),
    reimported first third octets, ?_, ?_, ?_, FileSystem.read_writeAt written _,
    FileSystem.read_writeAt read _, ?_, ?_⟩
  · rw [FileSystem.editImports_of_read read, linesChanged_reimport]
    rfl
  · rw [FileSystem.editImports_of_read written, same, linesChanged_reimport, composed]
    rfl
  · rw [FileSystem.editImports_of_read read, linesChanged_reimport]
    rfl
  · intro location
    have heldOnce : (files.writeAt (files.locationOf path)
        (reimported first second octets)).entryAt? (files.locationOf path) =
          some (.file (reimported first second octets)) := FileSystem.entryAt?_of_read written
    rw [FileSystem.entryAt?_writeAt heldOnce, FileSystem.entryAt?_writeAt held,
      FileSystem.entryAt?_writeAt held]
    split
    · rfl
    · rfl
  · rintro rfl
    exact forall₂_respaced_reimported third octets

/-- A file that imports a class and a member of it under another name, with octets behind it that
encode nothing. -/
def respacedOctets : List UInt8 :=
  encode "import  s.S;\nimport static s.S.size as x; // ".toList ++ 0xff ::
    encode "\nimport s.V;\n".toList

def respacedFiles : FileSystem :=
  (FileSystem.empty .root).writeAt (.ofString "/S.java") respacedOctets

def respacedClass : ClassName :=
  ⟨"s".toList, "S".toList, by decide, by decide⟩

def respacedTarget : ClassName :=
  ⟨"t.u".toList, "T".toList, by decide, by decide⟩

theorem editImports_compose_respaced :
    ∃ count once back restored,
      respacedFiles.editImports (.ofString "/S.java") respacedClass respacedTarget false =
        .ok (count, once) ∧
      once.editImports (.ofString "/S.java") respacedTarget respacedClass false =
        .ok (count, back) ∧
      back.read (.ofString "/S.java") = .ok restored ∧
      List.Forall₂ Respaced (lines respacedOctets) (lines restored) := by
  have read : respacedFiles.read (.ofString "/S.java") = .ok respacedOctets := by decide +kernel
  have importable : respacedTarget.Importable := ⟨by decide +kernel, by decide +kernel⟩
  have unused : ∀ line ∈ said respacedOctets, line.importsClass respacedTarget = false := by
    decide +kernel
  rcases editImports_compose read importable unused respacedClass respacedClass with
    ⟨count, once, back, -, restored, first, second, -, found, -, -, respaced⟩
  exact ⟨count, once, back, restored, first, second, found, respaced rfl⟩

end ClassMove
