import ClassMove.Line.Package
import ClassMove.Proofs.Text
import ClassMove.Proofs.Line.Word

/-!
# Package lines, cut and put together

A package line is read exactly when it can be cut into a mark, an indentation, the
keyword, white space, a package name and an end, and it is read as that cut.  So a
line printed with another package name is read with that name.
-/

namespace ClassMove.PackageLine

/-! ## Characters of a package line -/

theorem isBlank_of_isNameChar {c : Char} (inside : isNameChar c = true) :
    isBlank c = false := by
  simp only [isNameChar, Bool.or_eq_true, beq_iff_eq] at inside
  rcases inside with segment | rfl
  · exact isBlank_of_isIdentifierRest (isIdentifierRest_of_isSegmentChar segment)
  · decide

theorem isNameChar_of_mem {c : Char} {name : Text} (valid : isPackageName name = true)
    (member : c ∈ name) : isNameChar c = true := by
  simp only [isNameChar, Bool.or_eq_true, beq_iff_eq]
  by_cases dot : c = '.'
  · exact .inr dot
  · left
    obtain ⟨segment, listed, inside⟩ := Text.exists_mem_split member dot
    simp only [isPackageName, List.all_eq_true] at valid
    have segmentValid := valid segment listed
    simp only [isSegment, Bool.and_eq_true, List.all_eq_true] at segmentValid
    exact segmentValid.2 c inside

theorem isPackageName_ne_nil {name : Text} (valid : isPackageName name = true) : name ≠ [] := by
  rintro rfl
  cases valid

/-! ## Cuts of a package line -/

theorem keyword_eq : keyword = ['p', 'a', 'c', 'k', 'a', 'g', 'e'] :=
  rfl

theorem cutMark_eq_iff {line mark body : Text} :
    cutMark line = (mark, body) ↔
      line = mark ++ body ∧
        (mark = [byteOrderMark] ∨ mark = [] ∧ body.head? ≠ some byteOrderMark) := by
  cases line with
  | nil =>
    simp only [cutMark, Prod.mk.injEq]
    constructor
    · rintro ⟨rfl, rfl⟩
      simp
    · rintro ⟨empty, -⟩
      have parts := List.append_eq_nil_iff.1 empty.symm
      exact ⟨parts.1.symm, parts.2.symm⟩
  | cons c rest =>
    simp only [cutMark]
    split
    · next same =>
      subst same
      constructor
      · intro cut
        cases cut
        exact ⟨rfl, .inl rfl⟩
      · rintro ⟨joined, rfl | ⟨rfl, other⟩⟩
        · cases joined
          rfl
        · cases joined
          exact absurd rfl other
    · next other =>
      constructor
      · intro cut
        cases cut
        exact ⟨rfl, .inr ⟨rfl, by simpa using other⟩⟩
      · rintro ⟨joined, rfl | ⟨rfl, -⟩⟩
        · cases joined
          exact absurd rfl other
        · cases joined
          rfl

/-- The parts that a package line is put together from. -/
def Parts (line : Text) (found : PackageLine) : Prop :=
  ∃ mark indent gap,
    (mark = [byteOrderMark] ∨ mark = []) ∧ (∀ c ∈ indent, isIndent c = true) ∧ IsGap gap ∧
    isPackageName found.name = true ∧ isClosing found.tail = true ∧
    found.indent = mark ++ indent ∧
    line = mark ++ (indent ++ (keyword ++ gap ++ (found.name ++ found.tail)))

theorem stops_tail {tail : Text} (closing : isClosing tail = true) : Stops isNameChar tail :=
  stops_of_isClosing (fun _ inside => isBlank_of_isNameChar inside) rfl rfl closing

theorem stops_name {name : Text} (valid : isPackageName name = true) (tail : Text) :
    Stops isBlank (name ++ tail) := by
  cases name with
  | nil => cases valid
  | cons c rest =>
    exact isBlank_of_isNameChar (isNameChar_of_mem valid (List.mem_cons_self ..))

/-- A line is read as a package line exactly when it is put together from the parts of one. -/
theorem ofLine?_eq_some_iff {line : Text} {found : PackageLine} :
    ofLine? line = some found ↔ Parts line found := by
  rcases cut : cutMark line with ⟨mark, body⟩
  have marked := cutMark_eq_iff.1 cut
  simp only [ofLine?, cut]
  constructor
  · intro read
    cases behind : afterKeyword? keyword (body.dropWhile isIndent) with
    | none => simp [behind] at read
    | some rest =>
      simp only [behind, Option.ite_none_right_eq_some, Bool.and_eq_true,
        Option.some.injEq] at read
      rcases read with ⟨⟨valid, closing⟩, rfl⟩
      rcases afterKeyword?_eq_some_iff.1 behind with ⟨-, gap, isGap, keyed⟩
      refine ⟨mark, body.takeWhile isIndent, gap, ?_, forall_mem_takeWhile isIndent body, isGap,
        valid, closing, rfl, ?_⟩
      · exact marked.2.imp_right And.left
      · rw [List.takeWhile_append_dropWhile, ← keyed, List.takeWhile_append_dropWhile]
        exact marked.1
  · rintro ⟨otherMark, indent, gap, isMark, indented, isGap, valid, closing, shown, joined⟩
    have stops : Stops isIndent (keyword ++ gap ++ (found.name ++ found.tail)) := rfl
    have cutAgain : cutMark line =
        (otherMark, indent ++ (keyword ++ gap ++ (found.name ++ found.tail))) := by
      refine cutMark_eq_iff.2 ⟨joined, isMark.imp_right fun empty => ⟨empty, ?_⟩⟩
      cases indent with
      | nil => simp [keyword_eq, byteOrderMark]
      | cons c rest =>
        intro same
        have first := indented c (List.mem_cons_self ..)
        rw [Option.some.inj same] at first
        cases first
    have same := cut.symm.trans cutAgain
    cases same
    have behind : afterKeyword? keyword (keyword ++ gap ++ (found.name ++ found.tail)) =
        some (found.name ++ found.tail) :=
      afterKeyword?_eq_some_iff.2 ⟨stops_name valid found.tail, gap, isGap, rfl⟩
    have inside : ∀ c ∈ found.name, isNameChar c = true := fun _ => isNameChar_of_mem valid
    rw [dropWhile_append_of_stops indented stops, takeWhile_append_of_stops indented stops, behind]
    simp only [takeWhile_append_of_stops inside (stops_tail closing),
      dropWhile_append_of_stops inside (stops_tail closing), valid, closing, Bool.and_self,
      ↓reduceIte, Option.some.injEq]
    rw [← shown]

/-! ## Printing -/

/-- A package line printed with another name is read with that name. -/
theorem ofLine?_render {line : Text} {found : PackageLine} (read : ofLine? line = some found)
    {name : Text} (valid : isPackageName name = true) :
    ofLine? (found.render name) = some { found with name } := by
  rcases ofLine?_eq_some_iff.1 read with
    ⟨mark, indent, -, isMark, indented, -, -, closing, shown, -⟩
  refine ofLine?_eq_some_iff.2
    ⟨mark, indent, [' '], isMark, indented, isGap_space, valid, closing, shown, ?_⟩
  simp [render, head, shown]

end ClassMove.PackageLine
