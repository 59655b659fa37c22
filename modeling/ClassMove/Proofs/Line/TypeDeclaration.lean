import ClassMove.Line.TypeDeclaration
import ClassMove.Proofs.Line.Word

/-!
# Type lines, cut and put together

A type line is read exactly when it can be cut into an indentation, modifiers, a
kind, a name and what follows it, with white space behind each word.  No kind is a
modifier, so the modifiers end where the kind begins.
-/

namespace ClassMove

/-! ## Words of a type line -/

theorem Modifier.word_of_ofWord? {word : Text} {modifier : Modifier}
    (found : ofWord? word = some modifier) : modifier.word = word := by
  simpa using List.find?_some found

theorem TypeKind.word_of_ofWord? {word : Text} {kind : TypeKind}
    (found : ofWord? word = some kind) : kind.word = word := by
  simpa using List.find?_some found

theorem Modifier.ofWord?_kind (kind : TypeKind) : Modifier.ofWord? kind.word = none := by
  cases kind <;> decide

theorem Modifier.solid (modifier : Modifier) : ∀ c ∈ modifier.word, isBlank c = false := by
  apply forall_mem_of_all
  cases modifier <;> decide

theorem TypeKind.solid (kind : TypeKind) : ∀ c ∈ kind.word, isBlank c = false := by
  apply forall_mem_of_all
  cases kind <;> decide

theorem Modifier.stops (modifier : Modifier) (rest : Text) :
    Stops isBlank (modifier.word ++ rest) := by
  cases modifier <;> rfl

theorem TypeKind.stops (kind : TypeKind) (rest : Text) : Stops isBlank (kind.word ++ rest) := by
  cases kind <;> rfl

namespace TypeLine

/-! ## Modifiers -/

/-- Modifiers with the white space behind each of them, put together. -/
def joinModifiers (modifiers : List (Modifier × Text)) : Text :=
  modifiers.flatMap fun (modifier, gap) => modifier.word ++ gap

theorem joinModifiers_cons (modifier : Modifier) (gap : Text)
    (modifiers : List (Modifier × Text)) :
    joinModifiers ((modifier, gap) :: modifiers) =
      modifier.word ++ gap ++ joinModifiers modifiers := by
  simp [joinModifiers]

theorem exists_of_readModifiers (text : Text) :
    ∃ modifiers, (∀ entry ∈ modifiers, IsGap entry.2) ∧
      modifiers.map Prod.fst = (readModifiers text).1 ∧
      text = joinModifiers modifiers ++ (readModifiers text).2 := by
  fun_induction readModifiers text with
  | case1 text missing => exact ⟨[], by simp, rfl, rfl⟩
  | case2 text word rest found missing => exact ⟨[], by simp, rfl, rfl⟩
  | case3 text word rest found modifier known shorter others behind read ih =>
    rcases ih with ⟨modifiers, gaps, names, joined⟩
    rcases nextWord?_eq_some_iff.1 found with ⟨-, -, gap, isGap, cut⟩
    rw [read] at names joined
    refine ⟨(modifier, gap) :: modifiers, ?_, ?_, ?_⟩
    · intro entry member
      rcases List.mem_cons.1 member with rfl | later
      · exact isGap
      · exact gaps entry later
    · rw [List.map_cons, names]
    · rw [joinModifiers_cons, Modifier.word_of_ofWord? known, List.append_assoc, ← joined]
      exact cut

theorem stops_joinModifiers (modifiers : List (Modifier × Text)) (kind : TypeKind) (rest : Text) :
    Stops isBlank (joinModifiers modifiers ++ (kind.word ++ rest)) := by
  cases modifiers with
  | nil => exact kind.stops rest
  | cons entry modifiers =>
    rcases entry with ⟨modifier, gap⟩
    rw [joinModifiers_cons, List.append_assoc, List.append_assoc]
    exact modifier.stops _

theorem readModifiers_of_none {text word rest : Text}
    (found : nextWord? text = some (word, rest)) (unknown : Modifier.ofWord? word = none) :
    readModifiers text = ([], text) := by
  rw [readModifiers]
  split
  · rfl
  · next other behind same =>
    cases found.symm.trans same
    split
    · rfl
    · next known =>
      rw [unknown] at known
      cases known

theorem readModifiers_of_some {text word rest : Text} {modifier : Modifier}
    (found : nextWord? text = some (word, rest)) (known : Modifier.ofWord? word = some modifier) :
    readModifiers text = (modifier :: (readModifiers rest).1, (readModifiers rest).2) := by
  rw [readModifiers]
  split
  · next missing =>
    rw [found] at missing
    cases missing
  · next other behind same =>
    cases found.symm.trans same
    split
    · next unknown =>
      rw [known] at unknown
      cases unknown
    · next another same =>
      rw [known] at same
      cases same
      rfl

/-- Modifiers are read up to the kind. -/
theorem readModifiers_join {modifiers : List (Modifier × Text)}
    (gaps : ∀ entry ∈ modifiers, IsGap entry.2) (kind : TypeKind) {gap rest : Text}
    (isGap : IsGap gap) (stops : Stops isBlank rest) :
    readModifiers (joinModifiers modifiers ++ (kind.word ++ (gap ++ rest))) =
      (modifiers.map Prod.fst, kind.word ++ (gap ++ rest)) := by
  induction modifiers with
  | nil =>
    have found : nextWord? (kind.word ++ (gap ++ rest)) = some (kind.word, rest) :=
      nextWord?_eq_some_iff.2 ⟨stops, kind.solid, gap, isGap, by simp⟩
    exact readModifiers_of_none found (Modifier.ofWord?_kind kind)
  | cons entry modifiers ih =>
    rcases entry with ⟨modifier, between⟩
    have isBetween : IsGap between := gaps _ (List.mem_cons_self ..)
    have later := ih fun entry member => gaps entry (List.mem_cons_of_mem _ member)
    have found : nextWord? (joinModifiers ((modifier, between) :: modifiers) ++
        (kind.word ++ (gap ++ rest))) =
        some (modifier.word, joinModifiers modifiers ++ (kind.word ++ (gap ++ rest))) := by
      refine nextWord?_eq_some_iff.2
        ⟨stops_joinModifiers modifiers kind _, modifier.solid, between, isBetween, ?_⟩
      rw [joinModifiers_cons, List.append_assoc]
    rw [readModifiers_of_some found (Modifier.ofWord?_word modifier), later]
    rfl

/-! ## Cuts of a type line -/

/-- The parts that a type line is put together from. -/
def Parts (line : Text) (found : TypeLine) : Prop :=
  ∃ modifiers gap,
    (∀ c ∈ found.indent, isIndent c = true) ∧ (∀ entry ∈ modifiers, IsGap entry.2) ∧ IsGap gap ∧
    isIdentifier found.name = true ∧ isTail found.tail = true ∧
    found.modifiers = modifiers.map Prod.fst ∧
    line = found.indent ++ (joinModifiers modifiers ++
      (found.kind.word ++ (gap ++ (found.name ++ found.tail))))

theorem stops_tail {tail : Text} (isTail : isTail tail = true) : Stops isIdentifierRest tail := by
  cases tail with
  | nil => trivial
  | cons c rest =>
    simp only [TypeLine.isTail, Bool.or_eq_true, beq_iff_eq] at isTail
    rcases isTail with ((blank | rfl) | rfl) | rfl
    · show isIdentifierRest c = false
      cases inside : isIdentifierRest c with
      | false => rfl
      | true =>
        rw [isBlank_of_isIdentifierRest inside] at blank
        cases blank
    · rfl
    · rfl
    · rfl

theorem stops_name {name : Text} (valid : isIdentifier name = true) (tail : Text) :
    Stops isBlank (name ++ tail) := by
  cases name with
  | nil => cases valid
  | cons c rest =>
    exact isBlank_of_isIdentifierRest (isIdentifierRest_of_mem valid (List.mem_cons_self ..))

/-- A line is read as a type line exactly when it is put together from the parts of one. -/
theorem ofLine?_eq_some_iff {line : Text} {found : TypeLine} :
    ofLine? line = some found ↔ Parts line found := by
  constructor
  · intro read
    simp only [ofLine?] at read
    rcases exists_of_readModifiers (line.dropWhile isIndent) with ⟨modifiers, gaps, names, joined⟩
    cases next : nextWord? (readModifiers (line.dropWhile isIndent)).2 with
    | none => simp [next] at read
    | some pair =>
      rcases pair with ⟨word, behind⟩
      simp only [next] at read
      cases known : TypeKind.ofWord? word with
      | none => simp [known] at read
      | some kind =>
        simp only [known, Option.ite_none_right_eq_some, Bool.and_eq_true,
          Option.some.injEq] at read
        rcases read with ⟨⟨valid, isTail⟩, rfl⟩
        rcases nextWord?_eq_some_iff.1 next with ⟨-, -, gap, isGap, cut⟩
        refine ⟨modifiers, gap, forall_mem_takeWhile isIndent line, gaps, isGap, valid, isTail,
          names.symm, ?_⟩
        rw [List.takeWhile_append_dropWhile, TypeKind.word_of_ofWord? known,
          ← List.append_assoc word, ← cut, ← joined, List.takeWhile_append_dropWhile]
  · rintro ⟨modifiers, gap, indented, gaps, isGap, valid, isTail, names, rfl⟩
    have stops : Stops isIndent (joinModifiers modifiers ++
        (found.kind.word ++ (gap ++ (found.name ++ found.tail)))) :=
      (stops_joinModifiers modifiers found.kind _).mono fun _ => isBlank_of_isIndent
    have read := readModifiers_join gaps found.kind isGap (stops_name valid found.tail)
    have next : nextWord? (found.kind.word ++ (gap ++ (found.name ++ found.tail))) =
        some (found.kind.word, found.name ++ found.tail) :=
      nextWord?_eq_some_iff.2
        ⟨stops_name valid found.tail, found.kind.solid, gap, isGap, by simp⟩
    have inside : ∀ c ∈ found.name, isIdentifierRest c = true :=
      fun _ => isIdentifierRest_of_mem valid
    simp only [ofLine?]
    rw [dropWhile_append_of_stops indented stops, takeWhile_append_of_stops indented stops, read]
    simp only [next, TypeKind.ofWord?_word, takeWhile_append_of_stops inside (stops_tail isTail),
      dropWhile_append_of_stops inside (stops_tail isTail), valid, isTail, Bool.and_self,
      ↓reduceIte]
    rw [← names]

/-! ## Printing -/

/-- A type line printed with another name is read with that name. -/
theorem ofLine?_render {line : Text} {found : TypeLine} (read : ofLine? line = some found)
    {name : Text} (valid : isIdentifier name = true) :
    ofLine? (found.render name) = some { found with name } := by
  rcases ofLine?_eq_some_iff.1 read with ⟨modifiers, -, indented, -, -, -, isTail, names, -⟩
  refine ofLine?_eq_some_iff.2 ⟨found.modifiers.map (·, [' ']), [' '], indented, ?_, isGap_space,
    valid, isTail, ?_, ?_⟩
  · intro entry member
    rcases List.mem_map.1 member with ⟨modifier, -, rfl⟩
    exact isGap_space
  · rw [List.map_map]
    exact (List.map_id found.modifiers).symm
  · simp [render, head, joinModifiers, List.flatMap_map]

end TypeLine

end ClassMove
