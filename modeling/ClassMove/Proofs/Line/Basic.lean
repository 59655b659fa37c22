import ClassMove.Line.Basic
import ClassMove.Proofs.Line.Import
import ClassMove.Proofs.Line.Package
import ClassMove.Proofs.Line.TypeDeclaration

/-!
# Lines of one kind

The first word of a line decides what kind of line it can be, so no line is of two
kinds, and the order in which the kinds are tried does not matter.
-/

namespace ClassMove

/-! ## First words -/

/-- The first word of a line behind its indentation. -/
def firstWord (line : Text) : Text :=
  (line.dropWhile isIndent).takeWhile (!isBlank ·)

theorem firstWord_append {indent word gap rest : Text} (indented : ∀ c ∈ indent, isIndent c = true)
    (solid : ∀ c ∈ word, isBlank c = false) (nonempty : word ≠ []) (isGap : IsGap gap) :
    firstWord (indent ++ (word ++ (gap ++ rest))) = word := by
  have start : Stops isIndent (word ++ (gap ++ rest)) := by
    cases word with
    | nil => exact absurd rfl nonempty
    | cons c word =>
      have stops : Stops isBlank (c :: word ++ (gap ++ rest)) := solid c (List.mem_cons_self ..)
      exact stops.mono fun _ => isBlank_of_isIndent
  have inside : ∀ c ∈ word, (!isBlank c) = true := by simpa using solid
  have stop : Stops (!isBlank ·) (gap ++ rest) := isGap.stops (by simp) rest
  rw [firstWord, dropWhile_append_of_stops indented start, takeWhile_append_of_stops inside stop]

theorem firstWord_of_import {line : Text} {found : ImportLine}
    (read : ImportLine.ofLine? line = some found) : firstWord line = ImportLine.keyword := by
  rcases ImportLine.ofLine?_eq_some_iff.1 read with ⟨gap, between, indented, isGap, -, -, -, rfl⟩
  rw [List.append_assoc]
  exact firstWord_append indented (forall_mem_of_all (by decide)) (by decide) isGap

theorem firstWord_of_package {line : Text} {found : PackageLine}
    (read : PackageLine.ofLine? line = some found) :
    firstWord line = PackageLine.keyword ∨
      (firstWord line).head? = some PackageLine.byteOrderMark := by
  rcases PackageLine.ofLine?_eq_some_iff.1 read with
    ⟨mark, indent, gap, rfl | rfl, indented, isGap, -, -, -, rfl⟩
  · exact .inr rfl
  · left
    rw [List.append_assoc, List.nil_append]
    exact firstWord_append indented (forall_mem_of_all (by decide)) (by decide) isGap

theorem firstWord_of_type {line : Text} {found : TypeLine}
    (read : TypeLine.ofLine? line = some found) :
    (∃ modifier : Modifier, firstWord line = modifier.word) ∨
      ∃ kind : TypeKind, firstWord line = kind.word := by
  rcases TypeLine.ofLine?_eq_some_iff.1 read with
    ⟨modifiers, gap, indented, gaps, isGap, -, -, -, rfl⟩
  cases modifiers with
  | nil =>
    right
    exact ⟨found.kind,
      firstWord_append indented found.kind.solid (by cases found.kind <;> decide) isGap⟩
  | cons entry modifiers =>
    rcases entry with ⟨modifier, between⟩
    left
    refine ⟨modifier, ?_⟩
    rw [TypeLine.joinModifiers_cons, List.append_assoc, List.append_assoc]
    exact firstWord_append indented modifier.solid (by cases modifier <;> decide)
      (gaps _ (List.mem_cons_self ..))

/-! ## No line is of two kinds -/

theorem package_eq_none_of_firstWord {line : Text} (word : firstWord line = ImportLine.keyword) :
    PackageLine.ofLine? line = none := by
  cases other : PackageLine.ofLine? line with
  | none => rfl
  | some package =>
    exfalso
    rcases firstWord_of_package other with same | marked
    · rw [word] at same
      exact absurd same (by decide)
    · rw [word] at marked
      exact absurd marked (by decide)

theorem type_eq_none_of_firstWord {line : Text} (word : firstWord line = ImportLine.keyword) :
    TypeLine.ofLine? line = none := by
  cases other : TypeLine.ofLine? line with
  | none => rfl
  | some type =>
    exfalso
    rcases firstWord_of_type other with ⟨modifier, same⟩ | ⟨kind, same⟩
    · rw [same] at word
      cases modifier <;> exact absurd word (by decide)
    · rw [same] at word
      cases kind <;> exact absurd word (by decide)

theorem package_eq_none_of_import {line : Text} {found : ImportLine}
    (read : ImportLine.ofLine? line = some found) : PackageLine.ofLine? line = none :=
  package_eq_none_of_firstWord (firstWord_of_import read)

theorem package_eq_none_of_type {line : Text} {found : TypeLine}
    (read : TypeLine.ofLine? line = some found) : PackageLine.ofLine? line = none := by
  cases other : PackageLine.ofLine? line with
  | none => rfl
  | some package =>
    exfalso
    have word := firstWord_of_package other
    rcases firstWord_of_type read with ⟨modifier, same⟩ | ⟨kind, same⟩
    · rw [same] at word
      cases modifier <;> exact absurd word (by decide)
    · rw [same] at word
      cases kind <;> exact absurd word (by decide)

theorem import_eq_none_of_type {line : Text} {found : TypeLine}
    (read : TypeLine.ofLine? line = some found) : ImportLine.ofLine? line = none := by
  cases other : ImportLine.ofLine? line with
  | none => rfl
  | some importing =>
    rw [type_eq_none_of_firstWord (firstWord_of_import other)] at read
    cases read

namespace Line

theorem ofText_of_package {text : Text} {line : PackageLine}
    (read : PackageLine.ofLine? text = some line) : ofText text = .package line := by
  rw [ofText, read]

theorem ofText_of_import {text : Text} {line : ImportLine}
    (read : ImportLine.ofLine? text = some line) : ofText text = .importing line := by
  rw [ofText, package_eq_none_of_import read, read]

theorem ofText_of_type {text : Text} {line : TypeLine}
    (read : TypeLine.ofLine? text = some line) : ofText text = .type line := by
  rw [ofText, package_eq_none_of_type read, import_eq_none_of_type read, read]

/-- Reading a line means reading it as each of the three kinds. -/
theorem ofText_cases (text : Text) :
    (∃ line, ofText text = .package line ∧ PackageLine.ofLine? text = some line ∧
      ImportLine.ofLine? text = none ∧ TypeLine.ofLine? text = none) ∨
    (∃ line, ofText text = .importing line ∧ ImportLine.ofLine? text = some line ∧
      PackageLine.ofLine? text = none ∧ TypeLine.ofLine? text = none) ∨
    (∃ line, ofText text = .type line ∧ TypeLine.ofLine? text = some line ∧
      PackageLine.ofLine? text = none ∧ ImportLine.ofLine? text = none) ∨
    (ofText text = .other ∧ PackageLine.ofLine? text = none ∧ ImportLine.ofLine? text = none ∧
      TypeLine.ofLine? text = none) := by
  cases type : TypeLine.ofLine? text with
  | some line =>
    have package := package_eq_none_of_type type
    have importing := import_eq_none_of_type type
    exact .inr (.inr (.inl ⟨line, ofText_of_type type, rfl, package, importing⟩))
  | none =>
    cases importing : ImportLine.ofLine? text with
    | some line =>
      have package := package_eq_none_of_import importing
      exact .inr (.inl ⟨line, ofText_of_import importing, rfl, package, rfl⟩)
    | none =>
      cases package : PackageLine.ofLine? text with
      | some line => exact .inl ⟨line, ofText_of_package package, rfl, rfl, rfl⟩
      | none =>
        refine .inr (.inr (.inr ⟨?_, rfl, rfl, rfl⟩))
        rw [ofText, package, importing, type]

/-- A line that begins like an import line is one, or says nothing. -/
theorem ofText_of_firstWord {text : Text} (word : firstWord text = ImportLine.keyword) :
    ofText text = .other ∨ ∃ line, ofText text = .importing line := by
  rw [ofText, package_eq_none_of_firstWord word, type_eq_none_of_firstWord word]
  cases ImportLine.ofLine? text with
  | none => exact .inl rfl
  | some line => exact .inr ⟨line, rfl⟩

end Line

end ClassMove
