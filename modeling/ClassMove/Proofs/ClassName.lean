import ClassMove.ClassName
import ClassMove.Proofs.Line.Word
import ClassMove.Proofs.Text

/-!
# Qualified names, taken apart and put together

A dotted text is the qualified name of the class that is found in it, followed by
what belongs to a member.  Where the simple name of a class starts with a capital,
the class is found again with the same of it behind.
-/

namespace ClassMove

/-! ## Picking the class of a dotted text -/

namespace ClassName

theorem pickClass_eq_none {segments : List Text}
    (lower : ∀ segment ∈ segments, segment.startsUpper = false) : pickClass segments = none := by
  induction segments with
  | nil => rfl
  | cons segment rest ih =>
    have later := ih fun other member => lower other (List.mem_cons_of_mem _ member)
    simp [pickClass, later, lower segment (List.mem_cons_self ..)]

theorem lower_of_pickClass_eq_none {segments : List Text} (none : pickClass segments = none) :
    ∀ segment ∈ segments, segment.startsUpper = false := by
  induction segments with
  | nil =>
    intro segment member
    cases member
  | cons first rest ih =>
    simp only [pickClass] at none
    split at none
    · cases none
    · next later =>
      intro segment member
      rcases List.mem_cons.1 member with rfl | behind
      · simpa using none
      · exact ih later segment behind

theorem pickClass_eq_some_iff {segments before after : List Text} {simple : Text} :
    pickClass segments = some (before, simple, after) ↔
      segments = before ++ simple :: after ∧ simple.startsUpper = true ∧
        ∀ segment ∈ after, segment.startsUpper = false := by
  constructor
  · intro picked
    induction segments generalizing before with
    | nil => cases picked
    | cons first rest ih =>
      simp only [pickClass] at picked
      split at picked
      · next front found behind later =>
        cases Option.some.inj picked
        rcases ih later with ⟨rfl, upper, lower⟩
        exact ⟨rfl, upper, lower⟩
      · next later =>
        simp only [Option.ite_none_right_eq_some, Option.some.injEq, Prod.mk.injEq] at picked
        rcases picked with ⟨upper, rfl, rfl, rfl⟩
        exact ⟨rfl, upper, lower_of_pickClass_eq_none later⟩
  · rintro ⟨rfl, upper, lower⟩
    induction before with
    | nil => simp [pickClass, pickClass_eq_none lower, upper]
    | cons first before ih => simp [pickClass, ih]

/-! ## Qualified names -/

theorem dot_notMem_simple (name : ClassName) : '.' ∉ name.simple := by
  intro member
  have inside := isIdentifierRest_of_mem (isIdentifier_of_isSimpleName name.simple_valid) member
  exact absurd inside (by decide)

theorem split_qualified (name : ClassName) :
    Text.split '.' name.qualified = Text.split '.' name.package ++ [name.simple] := by
  rw [qualified, Text.split_append_separator, Text.split_of_notMem name.dot_notMem_simple]

theorem qualified_injective {first second : ClassName}
    (same : first.qualified = second.qualified) : first = second := by
  have cut := congrArg (Text.split '.') same
  rw [split_qualified, split_qualified] at cut
  rcases List.append_inj' cut rfl with ⟨packages, simples⟩
  have joined := congrArg (Text.join '.') packages
  rw [Text.join_split, Text.join_split] at joined
  rw [ClassName.mk.injEq]
  exact ⟨joined, List.singleton_inj.1 simples⟩

theorem ofParts_eq_ok_iff {package simple : Text} {name : ClassName} :
    ofParts package simple = .ok name ↔ name.package = package ∧ name.simple = simple := by
  constructor
  · intro built
    simp only [ofParts] at built
    split at built
    · split at built
      · cases built
        exact ⟨rfl, rfl⟩
      · cases built
    · cases built
  · rintro ⟨rfl, rfl⟩
    simp [ofParts, name.package_valid, name.simple_valid]

/-- A class is found in a dotted text exactly when the text is its qualified name with a lower-case
rest, and its simple name starts with a capital. -/
theorem splitMember_eq_ok_iff {dotted suffix : Text} {name : ClassName} :
    splitMember dotted = .ok (name, suffix) ↔
      dotted = name.qualified ++ suffix ∧ name.simple.startsUpper = true ∧
        ∃ pieces : List Text, suffix = pieces.flatMap ('.' :: ·) ∧
          ∀ piece ∈ pieces, '.' ∉ piece ∧ piece.startsUpper = false := by
  constructor
  · intro found
    simp only [splitMember] at found
    split at found
    · cases found
    · next before simple after picked =>
      rcases pickClass_eq_some_iff.1 picked with ⟨cut, upper, lower⟩
      cases built : ofParts (Text.join '.' before) simple with
      | error failure => simp [built, bind, Except.bind] at found
      | ok class' =>
        simp only [built, bind, Except.bind, Except.ok.injEq, Prod.mk.injEq] at found
        rcases found with ⟨rfl, rfl⟩
        rcases ofParts_eq_ok_iff.1 built with ⟨packageSame, simpleSame⟩
        have nonempty : before ≠ [] := by
          rintro rfl
          have valid := class'.package_valid
          rw [packageSame] at valid
          cases valid
        refine ⟨?_, simpleSame ▸ upper, after, rfl, ?_⟩
        · rw [← Text.join_split '.' dotted, cut, Text.join_append '.' nonempty, qualified,
            packageSame, simpleSame]
          simp
        · intro piece member
          refine ⟨?_, lower piece member⟩
          have listed : piece ∈ Text.split '.' dotted := by
            rw [cut]
            exact List.mem_append_right _ (List.mem_cons_of_mem _ member)
          exact Text.notMem_of_mem_split listed
  · rintro ⟨rfl, upper, pieces, rfl, lower⟩
    have cut : Text.split '.' (name.qualified ++ pieces.flatMap ('.' :: ·)) =
        Text.split '.' name.package ++ name.simple :: pieces := by
      rw [Text.split_append_flatMap fun piece member => (lower piece member).1, split_qualified,
        List.append_assoc]
      rfl
    have picked := pickClass_eq_some_iff.2 ⟨cut, upper, fun piece member => (lower piece member).2⟩
    have built : ofParts name.package name.simple = .ok name := ofParts_eq_ok_iff.2 ⟨rfl, rfl⟩
    simp [splitMember, picked, built, bind, Except.bind]

/-- What follows a class in a dotted text may follow any class whose name starts with a capital. -/
theorem splitMember_retarget {dotted suffix : Text} {old new : ClassName}
    (found : splitMember dotted = .ok (old, suffix)) (upper : new.simple.startsUpper = true) :
    splitMember (new.qualified ++ suffix) = .ok (new, suffix) := by
  rcases splitMember_eq_ok_iff.1 found with ⟨-, -, pieces⟩
  exact splitMember_eq_ok_iff.2 ⟨rfl, upper, pieces⟩

/-! ## Classes that can be imported -/

/-- Can the class be written as the target of an import and be found there again? -/
structure Importable (name : ClassName) : Prop where
  parsed : ofDotted name.qualified = .ok name
  lettered : ∀ segment ∈ Text.split '.' name.package, segment.head?.any Char.isDigit = false

theorem Importable.startsUpper {name : ClassName} (importable : Importable name) :
    name.simple.startsUpper = true := by
  have parsed := importable.parsed
  simp only [ofDotted] at parsed
  cases found : splitMember name.qualified with
  | error failure =>
    rw [found] at parsed
    cases parsed
  | ok pair =>
    rw [found] at parsed
    rcases pair with ⟨other, suffix⟩
    cases Except.ok.inj parsed
    exact (splitMember_eq_ok_iff.1 found).2.1

theorem isIdentifier_of_isSegment {segment : Text} (valid : isSegment segment = true)
    (lettered : segment.head?.any Char.isDigit = false) : isIdentifier segment = true := by
  cases segment with
  | nil => cases valid
  | cons c rest =>
    simp only [isSegment, Bool.and_eq_true, List.all_eq_true] at valid
    have first := valid.2 c (List.mem_cons_self ..)
    have letter : c.isDigit = false := lettered
    simp only [isIdentifier, Bool.and_eq_true, List.all_eq_true]
    constructor
    · simp only [isSegmentChar, Char.isAlphanum, letter, Bool.or_false, Bool.or_eq_true,
        beq_iff_eq] at first
      simpa [isIdentifierStart, or_assoc] using first.imp_right .inl
    · intro d member
      exact isIdentifierRest_of_isSegmentChar (valid.2 d (List.mem_cons_of_mem _ member))

/-- The qualified name of an importable class is a target, also with more identifiers behind it. -/
theorem Importable.isDottedIdentifier {name : ClassName} (importable : Importable name)
    {pieces : List Text} (free : ∀ piece ∈ pieces, '.' ∉ piece)
    (identifiers : ∀ piece ∈ pieces, isIdentifier piece = true) :
    isDottedIdentifier (name.qualified ++ pieces.flatMap ('.' :: ·)) = true := by
  rw [ClassMove.isDottedIdentifier, Text.split_append_flatMap free, split_qualified]
  simp only [List.all_eq_true, List.mem_append, List.mem_singleton]
  rintro segment ((package | rfl) | later)
  · have valid := name.package_valid
    simp only [isPackageName, List.all_eq_true] at valid
    exact isIdentifier_of_isSegment (valid segment package) (importable.lettered segment package)
  · exact isIdentifier_of_isSimpleName name.simple_valid
  · exact identifiers segment later

end ClassName

end ClassMove
