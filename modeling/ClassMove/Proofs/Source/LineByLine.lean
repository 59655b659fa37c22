import ClassMove.Proofs.Decoding
import ClassMove.Proofs.Source.Changes

/-!
# A file edited line by line

An editor is shown the lines of a file one after another and answers each of them.
What it is shown is the view of the whole file, cut behind each end of a line, in a
preview and otherwise.  Where its answer is carried out the answer says what is written;
every other line is written octet by octet as it was, and a line that encodes no text is
never replaced as a whole.
-/

namespace ClassMove

open Utf8

/-! ## One line -/

namespace Edit

/-- Is an edit carried out on a line?  A line is replaced as a whole if it encodes a text, and its
first octets are replaced if the encoding of its view starts with the same ones. -/
def Applies (line : List UInt8) : Edit → Prop
  | .keep => False
  | .replace _ => ∃ text, line = encode text
  | .splice count _ => ∃ start, start.length = count ∧ start <+: line ∧ start <+: encode (view line)

/-- What is written in place of a line on which an edit is carried out. -/
def written (line : List UInt8) : Edit → List UInt8
  | .keep => line
  | .replace fresh => encode fresh.flatten
  | .splice count head => encode head ++ line.drop count

theorem applies_splice_iff {line : List UInt8} {count : Nat} {head : Text} :
    (Edit.splice count head).Applies line ↔
      count ≤ line.length ∧ line.take count = (encode (view line)).take count := by
  constructor
  · rintro ⟨start, rfl, inLine, inView⟩
    exact ⟨inLine.length_le, by
      rw [← List.prefix_iff_eq_take.1 inLine, ← List.prefix_iff_eq_take.1 inView]⟩
  · rintro ⟨fits, same⟩
    refine ⟨line.take count, List.length_take_of_le fits, List.take_prefix .., ?_⟩
    rw [same]
    exact List.take_prefix ..

theorem applied?_eq_some_iff {line fresh : List UInt8} {edit : Edit} :
    edit.applied? line = some fresh ↔ edit.Applies line ∧ fresh = edit.written line := by
  cases edit with
  | keep => simp [applied?, Applies]
  | replace lines =>
    simp only [applied?, Applies, ← isValid_iff, written, Option.ite_none_right_eq_some,
      Option.some.injEq, eq_comm (a := fresh)]
  | splice count head =>
    simp only [applied?, applies_splice_iff, written, Option.ite_none_right_eq_some,
      Option.some.injEq, eq_comm (a := fresh)]

theorem isSome_applied?_iff {line : List UInt8} {edit : Edit} :
    (edit.applied? line).isSome = true ↔ edit.Applies line := by
  rw [Option.isSome_iff_exists]
  constructor
  · rintro ⟨fresh, applied⟩
    exact (applied?_eq_some_iff.1 applied).1
  · intro applies
    exact ⟨_, applied?_eq_some_iff.2 ⟨applies, rfl⟩⟩

instance (line : List UInt8) (edit : Edit) : Decidable (edit.Applies line) :=
  decidable_of_iff _ isSome_applied?_iff

end Edit

theorem EditedLine.ofEdit_eq (line : List UInt8) (edit : Edit) :
    EditedLine.ofEdit line edit =
      if edit.Applies line then ⟨edit.written line, true⟩ else ⟨line, false⟩ := by
  rw [EditedLine.ofEdit]
  cases applied : edit.applied? line with
  | none =>
    rw [if_neg]
    intro applies
    rw [← Edit.isSome_applied?_iff, applied] at applies
    cases applies
  | some fresh =>
    rcases Edit.applied?_eq_some_iff.1 applied with ⟨applies, rfl⟩
    rw [if_pos applies]

/-! ## All lines -/

/-- The texts that an editor of a file is shown, one after another. -/
def shownLines (octets : List UInt8) : List Text :=
  (lines octets).map view

section Answers

variable {Memory : Type} (editor : Editor Memory) (memory : Memory)

/-- The answers of an editor that is shown texts one after another. -/
def Editor.answers : Memory → List Text → List Edit
  | _, [] => []
  | memory, text :: rest =>
    (editor memory text).1 :: answers (editor memory text).2 rest

theorem Editor.length_answers (texts : List Text) :
    (editor.answers memory texts).length = texts.length := by
  induction texts generalizing memory with
  | nil => rfl
  | cons text rest ih => rw [answers, List.length_cons, ih, List.length_cons]

/-- Lines are edited as the editor answers their views. -/
theorem editLines_eq_zipWith (pieces : List (List UInt8)) :
    editLines editor memory pieces =
      List.zipWith EditedLine.ofEdit pieces (editor.answers memory (pieces.map view)) := by
  induction pieces generalizing memory with
  | nil => rfl
  | cons piece pieces ih =>
    rw [List.map_cons, Editor.answers, List.zipWith_cons_cons, ← ih]
    rfl

theorem lines_ofOctets (octets : List UInt8) :
    (Revision.ofOctets editor memory octets).lines =
      List.zipWith EditedLine.ofEdit (lines octets) (editor.answers memory (shownLines octets)) :=
  editLines_eq_zipWith editor memory (lines octets)

theorem getElem?_lines_ofOctets {octets : List UInt8} {number : Nat} {line : List UInt8}
    {answer : Edit} (listed : (lines octets)[number]? = some line)
    (answered : (editor.answers memory (shownLines octets))[number]? = some answer) :
    (Revision.ofOctets editor memory octets).lines[number]? =
      some (EditedLine.ofEdit line answer) := by
  rw [lines_ofOctets, List.getElem?_zipWith, listed, answered]

end Answers

/-- Did the lines of a file become what these answers say?  There is one answer and one stretch of
written octets for each line. -/
structure Revision.FollowsAnswers (octets : List UInt8) (answers : List Edit)
    (revision : Revision) : Prop where
  answered : answers.length = revision.linesRead
  written : revision.lines.map EditedLine.octets =
    List.zipWith (fun line answer => if answer.Applies line then answer.written line else line)
      (Utf8.lines octets) answers
  changed : revision.linesChanged =
    ((Utf8.lines octets).zip answers).countP fun call => decide (call.2.Applies call.1)

theorem linesRead_ofOctets {Memory : Type} (editor : Editor Memory) (memory : Memory)
    (octets : List UInt8) :
    (Revision.ofOctets editor memory octets).linesRead = (lines octets).length := by
  rw [Revision.linesRead, lines_ofOctets, List.length_zipWith, Editor.length_answers, shownLines,
    List.length_map, Nat.min_self]

/-- A revision does what the editor answers to the lines that it is shown. -/
theorem followsAnswers_ofOctets {Memory : Type} (editor : Editor Memory) (memory : Memory)
    (octets : List UInt8) :
    (Revision.ofOctets editor memory octets).FollowsAnswers octets
      (editor.answers memory (shownLines octets)) where
  answered := by
    rw [linesRead_ofOctets, Editor.length_answers, shownLines, List.length_map]
  written := by
    rw [lines_ofOctets, List.map_zipWith]
    congr 1
    funext line answer
    rw [EditedLine.ofEdit_eq]
    split
    · rfl
    · rfl
  changed := by
    rw [Revision.linesChanged, lines_ofOctets, ← List.map_uncurry_zip_eq_zipWith,
      List.countP_map]
    apply List.countP_congr
    rintro ⟨line, answer⟩ -
    simp only [Function.comp_apply, Function.uncurry_apply_pair, EditedLine.ofEdit_eq]
    split
    · next applies => simp [applies]
    · next rests => simp [rests]

/-! ## A file -/

/-- A preview and a real edit show an editor the same lines, which are the view of the file, and end
in the same revision.  The real edit writes one stretch of octets for each line: what the answer
says where it is carried out, and the line itself elsewhere, in particular where a line that encodes
no text is to be replaced. -/
theorem edit_line_by_line {Memory : Type} {files : FileSystem} {path : Path}
    {octets : List UInt8} (read : files.read path = .ok octets) (editor : Editor Memory)
    (memory : Memory) :
    ∃ revision after,
      files.edit path true editor memory = .ok (revision, files) ∧
      files.edit path false editor memory = .ok (revision, after) ∧
      WellCut (lines octets) ∧ (lines octets).flatten = octets ∧
      (shownLines octets).flatten = view octets ∧
      revision.linesRead = (shownLines octets).length ∧
      revision.FollowsAnswers octets (editor.answers memory (shownLines octets)) ∧
      after.read path = .ok (revision.lines.map EditedLine.octets).flatten ∧
      (∀ location, location ≠ files.locationOf path →
        after.entryAt? location = files.entryAt? location) ∧
      ∀ (number : Nat) line fresh, (lines octets)[number]? = some line →
        (editor.answers memory (shownLines octets))[number]? = some (.replace fresh) →
        (∀ text, line ≠ encode text) → revision.lines[number]? = some ⟨line, false⟩ := by
  have real := FileSystem.edit_of_read read false editor memory
  refine ⟨Revision.ofOctets editor memory octets, _,
    FileSystem.edit_of_read read true editor memory, real, wellCut_lines octets,
    flatten_lines octets, flatMap_view_lines octets, ?_,
    followsAnswers_ofOctets editor memory octets, ?_, ?_, ?_⟩
  · rw [linesRead_ofOctets, shownLines, List.length_map]
  · exact FileSystem.read_writeAt read _
  · intro location elsewhere
    have held := FileSystem.entryAt?_of_read read
    exact (FileSystem.entryAt?_writeAt held _ location).trans (if_neg elsewhere)
  · intro number line fresh listed answered undecodable
    have rests : ¬ (Edit.replace fresh).Applies line := by
      rintro ⟨text, encoded⟩
      exact undecodable text encoded
    rw [getElem?_lines_ofOctets editor memory listed answered, EditedLine.ofEdit_eq, if_neg rests]

/-- Three lines: the second one ends within a character, the last one is not ended. -/
def brokenLineOctets : List UInt8 :=
  encode "w\n".toList ++ [0xc3, newline] ++ encode "x".toList

def brokenLineFiles : FileSystem :=
  (FileSystem.empty .root).writeAt (.ofString "/W.java") brokenLineOctets

/-- An editor that puts everything it was shown in place of each line. -/
def repeatShown : Editor (List Text) :=
  fun shown line => (.replace (shown ++ [line]), shown ++ [line])

theorem edit_line_by_line_repeated :
    ∃ revision after,
      brokenLineFiles.edit (.ofString "/W.java") true repeatShown [] =
        .ok (revision, brokenLineFiles) ∧
      brokenLineFiles.edit (.ofString "/W.java") false repeatShown [] = .ok (revision, after) ∧
      revision.linesRead = 3 ∧ revision.linesChanged = 2 ∧
      after.read (.ofString "/W.java") =
        .ok (encode "w\n".toList ++ [0xc3, newline] ++ encode "w\n\uFFFD\nx".toList) := by
  have read : brokenLineFiles.read (.ofString "/W.java") = .ok brokenLineOctets := by
    decide +kernel
  rcases edit_line_by_line read repeatShown [] with
    ⟨revision, after, preview, real, -, -, -, counted, follows, written, -, -⟩
  refine ⟨revision, after, preview, real, counted.trans (by decide +kernel),
    follows.changed.trans (by decide +kernel), written.trans ?_⟩
  rw [follows.written]
  decide +kernel

end ClassMove
