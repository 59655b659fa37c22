import ClassMove.Proofs.Source.LineByLine

/-!
# Splices of lines that are shown leniently

A splice is told by what an editor is shown: how many octets the text has that stands in
front of a tail.  The octets of the line may be others than those of the text, and as
many.  The splice is carried out exactly if no broken stretch of octets is shown in front
of the tail; then all octets behind that place are kept, broken or not, and they are shown
as the tail again.

Nothing else can go wrong: a stretch that is cut short may be as long as the replacement
character and start like it, but it is not spelled like it; and a replacement character that
the line really holds is no broken stretch.
-/

namespace ClassMove

open Utf8

/-! ## One line -/

/-- A splice is carried out exactly if the line begins with the encoding of what is replaced. -/
theorem Edit.applies_before_iff {line : List UInt8} {front tail : Text}
    (shown : view line = front ++ tail) (head : Text) :
    (Edit.before (view line) tail head).Applies line ↔ encode front <+: line := by
  rw [Edit.before, shown, length_encode_sub]
  constructor
  · rintro ⟨start, length, inLine, inView⟩
    -- the view begins with the encoding too, and there is only one beginning of that length
    rw [shown, encode_append] at inView
    have within : start <+: encode front :=
      List.prefix_of_prefix_length_le inView (List.prefix_append ..) (Nat.le_of_eq length)
    rwa [← within.eq_of_length length]
  · intro leads
    refine ⟨encode front, rfl, leads, ?_⟩
    rw [shown, encode_append]
    exact List.prefix_append ..

/-- Did another head take the place of the start `front` of a line, which is shown with the tail
`tail`, wherever that start can be trusted, and did the line stay as it was elsewhere? -/
structure EditedLine.Spliced (line : List UInt8) (front tail head : Text) (edited : EditedLine) :
    Prop where
  applied : edited.changed = true ↔
    ∀ chunk ∈ (decode line).take front.length, chunk.char? ≠ none
  written : edited.changed = true → ∃ rest, line = encode front ++ rest ∧
    edited.octets = encode head ++ rest ∧ view edited.octets = head ++ tail
  kept : edited.changed = false → edited.octets = line

theorem EditedLine.spliced_ofEdit {line : List UInt8} {front tail : Text}
    (shown : view line = front ++ tail) (head : Text) :
    (EditedLine.ofEdit line (.before (view line) tail head)).Spliced line front tail head := by
  have applies := Edit.applies_before_iff shown head
  have complete := complete_iff shown
  rw [EditedLine.ofEdit_eq]
  by_cases leads : encode front <+: line
  · rw [if_pos (applies.2 leads)]
    refine ⟨by simp [complete, leads], fun _ => ?_, by simp⟩
    rcases leads with ⟨rest, rfl⟩
    have behind : view rest = tail := by
      rw [view_encode_append] at shown
      exact List.append_cancel_left shown
    have fresh : (Edit.before (view (encode front ++ rest)) tail head).written
        (encode front ++ rest) = encode head ++ rest := by
      rw [Edit.before, shown, length_encode_sub, Edit.written, List.drop_left]
    refine ⟨rest, rfl, fresh, ?_⟩
    rw [fresh, view_encode_append, behind]
  · rw [if_neg fun applied => leads (applies.1 applied)]
    exact ⟨by simp [complete, leads], by simp, fun _ => rfl⟩

/-! ## A line of a file -/

/-- Where an editor answers a line with a splice in front of a tail of what it is shown, the splice
is carried out exactly if no broken stretch is shown in front of the tail.  Then the line is written
with the new head and its own last octets, and is shown with the new head and the old tail;
otherwise it is written as it was. -/
theorem edit_splices {Memory : Type} {files : FileSystem} {path : Path} {octets : List UInt8}
    (read : files.read path = .ok octets) (editor : Editor Memory) (memory : Memory)
    {number : Nat} {line : List UInt8} (listed : (lines octets)[number]? = some line)
    {front tail head : Text} (shown : view line = front ++ tail)
    (answered : (editor.answers memory (shownLines octets))[number]? =
      some (.before (view line) tail head))
    (preview : Bool) :
    ∃ revision after edited,
      files.edit path preview editor memory = .ok (revision, after) ∧
      revision.lines[number]? = some edited ∧ edited.Spliced line front tail head ∧
      (preview = false → after.read path = .ok revision.octets) := by
  refine ⟨_, _, _, FileSystem.edit_of_read read preview editor memory,
    getElem?_lines_ofOctets editor memory listed answered, EditedLine.spliced_ofEdit shown head, ?_⟩
  rintro rfl
  exact FileSystem.read_writeAt read _

/-- The first line begins with a replacement character that is cut short, the second one with a
replacement character. -/
def cutShortOctets : List UInt8 :=
  [0xef, 0xbf] ++ encode "x\n".toList ++ encode "\uFFFDx".toList ++ [0xff]

def cutShortFiles : FileSystem :=
  (FileSystem.empty .root).writeAt (.ofString "/X.java") cutShortOctets

/-- An editor that takes away the first character of every line. -/
def dropFirst : Editor Unit :=
  fun _ line => (.before line (line.drop 1) [], ())

theorem edit_splices_cut_short :
    ∃ revision after first second,
      cutShortFiles.edit (.ofString "/X.java") false dropFirst () = .ok (revision, after) ∧
      revision.lines[0]? = some first ∧ first.octets = [0xef, 0xbf] ++ encode "x\n".toList ∧
      revision.lines[1]? = some second ∧ view second.octets = "x\uFFFD".toList := by
  have read : cutShortFiles.read (.ofString "/X.java") = .ok cutShortOctets := by decide +kernel
  have firstListed : (lines cutShortOctets)[0]? = some ([0xef, 0xbf] ++ encode "x\n".toList) := by
    decide +kernel
  have secondListed : (lines cutShortOctets)[1]? = some (encode "\uFFFDx".toList ++ [0xff]) := by
    decide +kernel
  rcases @edit_splices _ _ _ _ read dropFirst () _ _ firstListed ['\uFFFD'] "x\n".toList []
      (by decide +kernel) (by decide +kernel) false with
    ⟨revision, after, first, ran, atFirst, spliced, -⟩
  rcases @edit_splices _ _ _ _ read dropFirst () _ _ secondListed ['\uFFFD'] "x\uFFFD".toList []
      (by decide +kernel) (by decide +kernel) false with
    ⟨other, afterOther, second, ranOther, atSecond, splicedSecond, -⟩
  cases Except.ok.inj (ran.symm.trans ranOther)
  have kept : first.changed = false := by
    rw [← Bool.not_eq_true, spliced.applied]
    decide +kernel
  rcases splicedSecond.written (splicedSecond.applied.2 (by decide +kernel)) with
    ⟨rest, -, -, shown⟩
  exact ⟨revision, after, first, second, ran, atFirst, spliced.kept kept, atSecond, shown⟩

end ClassMove
