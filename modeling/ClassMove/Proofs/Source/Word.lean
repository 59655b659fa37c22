import ClassMove.Proofs.Source.Changes
import Mathlib.Data.List.Induction

/-!
# The word that a file begins with

Leave out the lines of a file that say nothing, and the others read a word.  The word of
a header is one package line, import lines and one type line.  Lines are begun if some
lines behind them would make their word that of a header; so the first line that
deviates is the one at which lines are begun no more.

Nothing here is about the scanner.  Every list of lines begins with a header, or
deviates from one at some line, or could still become one (`heads_or_deviates_or_begun`).
-/

namespace ClassMove

/-! ## Classes of lines -/

namespace Line

theorem ofText_eq_package_iff {text : Text} {line : PackageLine} :
    ofText text = .package line ↔ PackageLine.ofLine? text = some line := by
  rcases ofText_cases text with ⟨found, said, read, -, -⟩ | ⟨found, said, -, none, -⟩ |
    ⟨found, said, -, none, -⟩ | ⟨said, none, -, -⟩
  · simp [said, read]
  · simp [said, none]
  · simp [said, none]
  · simp [said, none]

theorem ofText_eq_importing_iff {text : Text} {line : ImportLine} :
    ofText text = .importing line ↔ ImportLine.ofLine? text = some line := by
  rcases ofText_cases text with ⟨found, said, -, none, -⟩ | ⟨found, said, read, -, -⟩ |
    ⟨found, said, -, -, none⟩ | ⟨said, -, none, -⟩
  · simp [said, none]
  · simp [said, read]
  · simp [said, none]
  · simp [said, none]

theorem ofText_eq_type_iff {text : Text} {line : TypeLine} :
    ofText text = .type line ↔ TypeLine.ofLine? text = some line := by
  rcases ofText_cases text with ⟨found, said, -, -, none⟩ | ⟨found, said, -, -, none⟩ |
    ⟨found, said, read, -, -⟩ | ⟨said, -, -, none⟩
  · simp [said, none]
  · simp [said, none]
  · simp [said, read]
  · simp [said, none]

theorem exists_of_isType {line : Line} (isType : line.isType = true) :
    ∃ found, line = .type found := by
  cases line with
  | type found => exact ⟨found, rfl⟩
  | _ => cases isType

/-- The rule that a line breaks where it does not belong. -/
def rule? : Line → Option Rule
  | .package _ => some .packageDeclaration
  | .importing _ => some .importStatement
  | .type _ => some .classDeclaration
  | .other => none

end Line

/-- The lines that say something. -/
def spoken (lines : List Line) : List Line :=
  lines.filter (· ≠ .other)

@[simp]
theorem spoken_append (front back : List Line) :
    spoken (front ++ back) = spoken front ++ spoken back :=
  List.filter_append ..

@[simp]
theorem spoken_nil : spoken [] = [] :=
  rfl

@[simp]
theorem spoken_other (lines : List Line) : spoken (.other :: lines) = spoken lines := by
  simp [spoken]

@[simp]
theorem spoken_package (line : PackageLine) (lines : List Line) :
    spoken (.package line :: lines) = .package line :: spoken lines := by
  simp [spoken]

@[simp]
theorem spoken_importing (line : ImportLine) (lines : List Line) :
    spoken (.importing line :: lines) = .importing line :: spoken lines := by
  simp [spoken]

@[simp]
theorem spoken_type (line : TypeLine) (lines : List Line) :
    spoken (.type line :: lines) = .type line :: spoken lines := by
  simp [spoken]

theorem mem_spoken {lines : List Line} {line : Line} :
    line ∈ spoken lines ↔ line ∈ lines ∧ line ≠ .other := by
  simp [spoken]

/-! ## Words of lines -/

namespace Header

/-- One package line, import lines and one type line. -/
def IsWhole (word : List Line) : Prop :=
  ∃ package, ∃ imports : List ImportLine, ∃ type,
    word = .package package :: (imports.map .importing ++ [.type type])

/-- Could lines follow with which a whole header is read? -/
def IsBegun (lines : List Line) : Prop :=
  ∃ more, IsWhole (spoken (lines ++ more))

/-- Is this the header that the lines begin with?  In front of its type line they read its package
line and its import lines. -/
structure Heads (lines front : List Line) (package : PackageLine) (imports : List ImportLine)
    (type : TypeLine) : Prop where
  leads : front ++ [.type type] <+: lines
  reads : spoken front = .package package :: imports.map .importing

/-- Is this the first line at which no header can be read any more, and was none read in front
of it? -/
structure DeviatesAt (lines front : List Line) (line : Line) : Prop where
  leads : front ++ [line] <+: lines
  untyped : ∀ earlier ∈ front, earlier.isType = false
  begun : IsBegun front
  deviates : ¬ IsBegun (front ++ [line])

theorem isBegun_of_silent {lines : List Line} (silent : spoken lines = []) : IsBegun lines := by
  refine ⟨[.package ⟨[], [], []⟩, .type ⟨[], [], .classType, [], []⟩], ?_⟩
  exact ⟨_, [], _, by rw [spoken_append, silent]; rfl⟩

theorem isBegun_of_imports {lines : List Line} (package : PackageLine)
    (imports : List ImportLine)
    (reads : spoken lines = .package package :: imports.map .importing) : IsBegun lines := by
  refine ⟨[.type ⟨[], [], .classType, [], []⟩], package, imports, ⟨[], [], .classType, [], []⟩, ?_⟩
  rw [spoken_append, reads]
  rfl

theorem isBegun_of_whole {lines : List Line} (whole : IsWhole (spoken lines)) : IsBegun lines :=
  ⟨[], by rwa [List.append_nil]⟩

/-- Begun lines without a type line have read nothing, or a package and imports. -/
theorem spoken_of_isBegun {lines : List Line} (begun : IsBegun lines)
    (untyped : ∀ line ∈ lines, line.isType = false) :
    spoken lines = [] ∨ ∃ package, ∃ imports : List ImportLine,
      spoken lines = .package package :: imports.map .importing := by
  rcases begun with ⟨more, package, imports, type, whole⟩
  rw [spoken_append] at whole
  cases word : spoken lines with
  | nil => exact .inl rfl
  | cons first rest =>
    right
    rw [word, List.cons_append] at whole
    rcases List.cons.inj whole with ⟨rfl, behind⟩
    rcases List.append_eq_append_iff.1 behind with ⟨later, cut, -⟩ | ⟨later, cut, last⟩
    · rcases List.map_eq_append_iff.1 cut with ⟨earlier, -, -, rfl, -⟩
      exact ⟨package, earlier, rfl⟩
    · cases later with
      | nil => exact ⟨package, imports, by rw [cut, List.append_nil]⟩
      | cons found others =>
        -- the type line would be among the lines
        exfalso
        have same := (List.cons.inj last).1
        have listed : .type type ∈ spoken lines := by simp [word, cut, same]
        cases untyped _ (mem_spoken.1 listed).1

/-- Begun lines that go on with a type line have read a package and imports. -/
theorem spoken_of_isBegun_type {lines : List Line} {type : TypeLine}
    (begun : IsBegun (lines ++ [.type type])) (untyped : ∀ line ∈ lines, line.isType = false) :
    ∃ package, ∃ imports : List ImportLine,
      spoken lines = .package package :: imports.map .importing := by
  have earlier : IsBegun lines := by
    rcases begun with ⟨more, whole⟩
    exact ⟨.type type :: more, by simpa using whole⟩
  rcases spoken_of_isBegun earlier untyped with silent | reads
  · rcases begun with ⟨more, package, imports, found, whole⟩
    simp [silent] at whole
  · exact reads

theorem untyped_of_spoken {lines : List Line}
    (untyped : ∀ line ∈ spoken lines, line.isType = false) :
    ∀ line ∈ lines, line.isType = false := by
  intro line listed
  cases line with
  | type found => exact untyped _ (mem_spoken.2 ⟨listed, by simp⟩)
  | _ => rfl

/-- A line deviates exactly if it declares the package a second time, or if it imports something
or declares a type before the package. -/
theorem deviatesAt_iff {lines front : List Line} {line : Line} :
    DeviatesAt lines front line ↔ front ++ [line] <+: lines ∧
      ((∃ second first, ∃ imports : List ImportLine, line = .package second ∧
          spoken front = .package first :: imports.map .importing) ∨
        (∃ found, line = .importing found ∧ spoken front = []) ∨
        ∃ found, line = .type found ∧ spoken front = []) := by
  constructor
  · intro deviation
    refine ⟨deviation.leads, ?_⟩
    rcases spoken_of_isBegun deviation.begun deviation.untyped with
      silent | ⟨package, imports, reads⟩
    · cases line with
      | other => exact absurd (isBegun_of_silent (by simp [silent])) deviation.deviates
      | package found =>
        exact absurd (isBegun_of_imports found [] (by simp [silent])) deviation.deviates
      | importing found => exact .inr (.inl ⟨found, rfl, silent⟩)
      | type found => exact .inr (.inr ⟨found, rfl, silent⟩)
    · cases line with
      | other =>
        exact absurd (isBegun_of_imports package imports (by simpa using reads)) deviation.deviates
      | package found => exact .inl ⟨found, package, imports, rfl, reads⟩
      | importing found =>
        refine absurd (isBegun_of_imports package (imports ++ [found]) ?_) deviation.deviates
        simp [reads]
      | type found =>
        refine absurd (isBegun_of_whole ⟨package, imports, found, ?_⟩) deviation.deviates
        simp [reads]
  · rintro ⟨leads, ⟨second, first, imports, rfl, reads⟩ | ⟨found, rfl, silent⟩ |
      ⟨found, rfl, silent⟩⟩
    · refine ⟨leads, untyped_of_spoken (by simp [reads, Line.isType]),
        isBegun_of_imports first imports reads, ?_⟩
      rintro ⟨more, package, others, type, whole⟩
      -- the second package line would be among the imports or the type line
      have listed : .package second ∈ others.map Line.importing ++ [.type type] := by
        simp only [spoken_append, reads, List.cons_append, List.append_assoc] at whole
        rw [← (List.cons.inj whole).2]
        simp
      simp at listed
    · refine ⟨leads, untyped_of_spoken (by simp [silent]), isBegun_of_silent silent, ?_⟩
      rintro ⟨more, package, others, type, whole⟩
      simp [silent] at whole
    · refine ⟨leads, untyped_of_spoken (by simp [silent]), isBegun_of_silent silent, ?_⟩
      rintro ⟨more, package, others, type, whole⟩
      simp [silent] at whole

/-- Every list of lines begins with a header, or deviates from one, or could still become one. -/
theorem heads_or_deviates_or_begun (lines : List Line) :
    (∃ front package imports type, Heads lines front package imports type) ∨
      (∃ front line, DeviatesAt lines front line) ∨
      (IsBegun lines ∧ ∀ line ∈ lines, line.isType = false) := by
  induction lines using List.reverseRecOn with
  | nil => exact .inr (.inr ⟨isBegun_of_silent rfl, by simp⟩)
  | append_singleton lines line ih =>
    have within : lines <+: lines ++ [line] := List.prefix_append ..
    rcases ih with ⟨front, package, imports, type, heads⟩ | ⟨front, found, deviation⟩ |
      ⟨begun, untyped⟩
    · exact .inl ⟨front, package, imports, type, heads.leads.trans within, heads.reads⟩
    · exact .inr (.inl ⟨front, found, { deviation with leads := deviation.leads.trans within }⟩)
    · -- a header could still be read in front of the last line, which decides
      by_cases still : IsBegun (lines ++ [line])
      · cases isType : line.isType with
        | true =>
          rcases Line.exists_of_isType isType with ⟨type, rfl⟩
          rcases spoken_of_isBegun_type still untyped with ⟨package, imports, reads⟩
          exact .inl ⟨lines, package, imports, type, List.prefix_refl _, reads⟩
        | false =>
          refine .inr (.inr ⟨still, ?_⟩)
          simpa [or_imp, forall_and] using ⟨untyped, isType⟩
      · exact .inr (.inl ⟨lines, line, List.prefix_refl _, untyped, begun, still⟩)

namespace Heads

variable {lines front : List Line} {package : PackageLine} {imports : List ImportLine}
  {type : TypeLine}

theorem type_mem (heads : Heads lines front package imports type) : .type type ∈ lines :=
  heads.leads.mem (by simp)

theorem package_mem (heads : Heads lines front package imports type) :
    .package package ∈ lines := by
  have listed : .package package ∈ spoken front := by simp [heads.reads]
  exact heads.leads.mem (List.mem_append_left _ (mem_spoken.1 listed).1)

/-- A header does not depend on what stands behind its type line. -/
theorem of_take (heads : Heads lines front package imports type) {later : List Line}
    (same : later.take (front.length + 1) = lines.take (front.length + 1)) :
    Heads later front package imports type := by
  refine ⟨?_, heads.reads⟩
  have kept := List.prefix_iff_eq_take.1 heads.leads
  rw [List.length_append, List.length_singleton, ← same] at kept
  rw [kept]
  exact List.take_prefix ..

end Heads

end Header

end ClassMove
