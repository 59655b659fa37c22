import ClassMove.Line.Import
import ClassMove.Proofs.ClassName
import ClassMove.Proofs.Line.Word
import ClassMove.Proofs.Text

/-!
# Import lines, cut and put together

An import line is read exactly when it can be cut into an indentation, the keyword,
perhaps the word `static`, a dotted target and an end, with white space between the
words.  The one choice that reading makes is settled here: a target called `static`
is never mistaken for the modifier, because what may stand behind a target is never
a target with an end of its own.

The target of an import is the class that is imported with pieces behind it, and
pointing the line at another class leaves those pieces.
-/

namespace ClassMove.ImportLine

/-! ## Characters of an import line -/

theorem isBlank_of_isTargetChar {c : Char} (inside : isTargetChar c = true) :
    isBlank c = false := by
  simp only [isTargetChar, Bool.or_eq_true, beq_iff_eq] at inside
  rcases inside with rest | rfl
  · exact isBlank_of_isIdentifierRest rest
  · decide

theorem isTargetChar_of_mem {c : Char} {target : Text}
    (valid : isDottedIdentifier target = true) (member : c ∈ target) :
    isTargetChar c = true := by
  simp only [isTargetChar, Bool.or_eq_true, beq_iff_eq]
  by_cases dot : c = '.'
  · exact .inr dot
  · left
    rcases Text.exists_mem_split member dot with ⟨segment, listed, inside⟩
    simp only [isDottedIdentifier, List.all_eq_true] at valid
    exact isIdentifierRest_of_mem (valid segment listed) inside

theorem stops_target {target : Text} (valid : isDottedIdentifier target = true) (tail : Text) :
    Stops isBlank (target ++ tail) := by
  cases target with
  | nil => cases valid
  | cons c rest =>
    exact isBlank_of_isTargetChar (isTargetChar_of_mem valid (List.mem_cons_self ..))

theorem stops_keyword (gap rest : Text) : Stops isIndent (keyword ++ gap ++ rest) :=
  rfl

theorem stops_aliasKeyword (gap rest : Text) : Stops isBlank (aliasKeyword ++ gap ++ rest) :=
  rfl

theorem stops_staticKeyword (rest : Text) : Stops isBlank (staticKeyword ++ rest) :=
  rfl

/-! ## What stands behind a target -/

/-- Does a line end so behind a target? -/
def IsEnd (tail : Text) : Prop :=
  isClosing tail = true ∨ isAlias tail = true

theorem exists_of_isAlias {text : Text} (isAlias : isAlias text = true) :
    ∃ gap between name rest, IsGap gap ∧ IsGap between ∧ isIdentifier name = true ∧
      isClosing rest = true ∧ text = gap ++ (aliasKeyword ++ between ++ (name ++ rest)) := by
  cases text with
  | nil => cases isAlias
  | cons c others =>
    simp only [ImportLine.isAlias, Bool.and_eq_true] at isAlias
    rcases isAlias with ⟨blank, read⟩
    cases behind : afterKeyword? aliasKeyword (others.dropWhile isBlank) with
    | none => simp [behind] at read
    | some later =>
      simp only [behind, Bool.and_eq_true] at read
      rcases afterKeyword?_eq_some_iff.1 behind with ⟨-, between, isGap, keyed⟩
      refine ⟨c :: others.takeWhile isBlank, between, later.takeWhile isIdentifierRest,
        later.dropWhile isIdentifierRest, ⟨by simp, ?_⟩, isGap, read.1, read.2, ?_⟩
      · intro d member
        rcases List.mem_cons.1 member with rfl | inside
        · exact blank
        · exact forall_mem_takeWhile isBlank others d inside
      · rw [List.takeWhile_append_dropWhile, ← keyed, List.cons_append,
          List.takeWhile_append_dropWhile]

/-- A line may go on with `as` and another name, and end there. -/
theorem isAlias_append {gap between name rest : Text} (isGap : IsGap gap)
    (isBetween : IsGap between) (valid : isIdentifier name = true)
    (closing : isClosing rest = true) :
    isAlias (gap ++ (aliasKeyword ++ between ++ (name ++ rest))) = true := by
  have inside : ∀ c ∈ name, isIdentifierRest c = true := fun _ => isIdentifierRest_of_mem valid
  have restStops : Stops isIdentifierRest rest :=
    stops_of_isClosing (fun _ => isBlank_of_isIdentifierRest) rfl rfl closing
  have nameStops : Stops isBlank (name ++ rest) := by
    cases name with
    | nil => cases valid
    | cons c name => exact isBlank_of_isIdentifierRest (inside c (List.mem_cons_self ..))
  have behind : afterKeyword? aliasKeyword (aliasKeyword ++ between ++ (name ++ rest)) =
      some (name ++ rest) :=
    afterKeyword?_eq_some_iff.2 ⟨nameStops, between, isBetween, rfl⟩
  cases gap with
  | nil => exact absurd rfl isGap.nonempty
  | cons c gap =>
    have blank : ∀ d ∈ gap, isBlank d = true :=
      fun d member => isGap.blank d (List.mem_cons_of_mem _ member)
    simp only [isAlias, List.cons_append, isGap.blank c (List.mem_cons_self ..),
      dropWhile_append_of_stops blank (stops_aliasKeyword _ _), behind,
      takeWhile_append_of_stops inside restStops, dropWhile_append_of_stops inside restStops, valid,
      closing, Bool.and_self]

theorem stops_of_isEnd {p : Char → Bool} (solid : ∀ c, p c = true → isBlank c = false)
    (semicolon : p ';' = false) (slash : p '/' = false) {tail : Text} (isEnd : IsEnd tail) :
    Stops p tail := by
  rcases isEnd with closing | isAlias
  · exact stops_of_isClosing solid semicolon slash closing
  · rcases exists_of_isAlias isAlias with ⟨gap, between, name, rest, isGap, -, -, -, rfl⟩
    exact isGap.stops solid _

theorem stops_tail {tail : Text} (isEnd : IsEnd tail) : Stops isTargetChar tail :=
  stops_of_isEnd (fun _ inside => isBlank_of_isTargetChar inside) rfl rfl isEnd

/-- A line that goes on with a name does not end. -/
theorem isClosing_append_name {gap name : Text} (blank : ∀ c ∈ gap, isBlank c = true)
    (valid : isIdentifier name = true) (rest : Text) :
    isClosing (gap ++ (name ++ rest)) = false := by
  cases name with
  | nil => cases valid
  | cons c name =>
    have inside := isIdentifierRest_of_mem valid (List.mem_cons_self ..)
    have stops : Stops isBlank (c :: name ++ rest) := isBlank_of_isIdentifierRest inside
    rw [isClosing, dropWhile_append_of_stops blank stops, List.cons_append]
    split
    · next same => cases same
    · next same =>
      rw [(List.cons.inj same).1] at inside
      cases inside
    · next same =>
      rw [(List.cons.inj same).1] at inside
      cases inside
    · rfl

/-- Behind another name the line ends, and does not go on with a second one. -/
theorem isAlias_append_name {gap name rest : Text} (isGap : IsGap gap)
    (valid : isIdentifier name = true) (closing : isClosing rest = true) :
    isAlias (gap ++ (name ++ rest)) = false := by
  cases second : isAlias (gap ++ (name ++ rest)) with
  | false => rfl
  | true =>
    exfalso
    rcases exists_of_isAlias second with
      ⟨otherGap, between, other, behind, isOther, isBetween, otherValid, -, same⟩
    have solid : ∀ c, isIdentifierRest c = true → isBlank c = false :=
      fun _ => isBlank_of_isIdentifierRest
    have nameInside : ∀ c ∈ name, isIdentifierRest c = true :=
      fun _ => isIdentifierRest_of_mem valid
    have wordInside : ∀ c ∈ aliasKeyword, isIdentifierRest c = true :=
      forall_mem_of_all (by decide)
    have restStops : Stops isIdentifierRest rest := stops_of_isClosing solid rfl rfl closing
    have betweenStops : Stops isIdentifierRest (between ++ (other ++ behind)) :=
      isBetween.stops solid _
    have nameStops : Stops isBlank (name ++ rest) := by
      cases name with
      | nil => cases valid
      | cons c name => exact solid c (nameInside c (List.mem_cons_self ..))
    have afterGaps : name ++ rest = aliasKeyword ++ (between ++ (other ++ behind)) := by
      have dropped := congrArg (List.dropWhile isBlank) same
      rw [dropWhile_append_of_stops isGap.blank nameStops,
        dropWhile_append_of_stops isOther.blank (stops_aliasKeyword _ _),
        List.append_assoc] at dropped
      exact dropped
    have afterNames : rest = between ++ (other ++ behind) := by
      have dropped := congrArg (List.dropWhile isIdentifierRest) afterGaps
      rw [dropWhile_append_of_stops nameInside restStops,
        dropWhile_append_of_stops wordInside betweenStops] at dropped
      exact dropped
    rw [afterNames, isClosing_append_name isBetween.blank otherValid] at closing
    cases closing

/-- Where a line ends, no target follows. -/
theorem takeWhile_of_isClosing {tail : Text} (closing : isClosing tail = true) :
    (tail.dropWhile isBlank).takeWhile isTargetChar = [] := by
  simp only [isClosing] at closing
  split at closing
  · next same => rw [same]; rfl
  · next same => rw [same]; rfl
  · next same => rw [same]; rfl
  · cases closing

/-- What stands behind a target is no target with an end of its own. -/
theorem target?_of_isEnd {tail : Text} (isEnd : IsEnd tail) :
    target? (tail.dropWhile isBlank) = none := by
  rcases isEnd with closing | isAlias
  · simp only [target?, takeWhile_of_isClosing closing]
    rfl
  · rcases exists_of_isAlias isAlias with
      ⟨gap, between, name, rest, isGap, isBetween, valid, closing, rfl⟩
    have behind : Stops isTargetChar (between ++ (name ++ rest)) :=
      isBetween.stops (fun _ => isBlank_of_isTargetChar) _
    have word : ∀ c ∈ aliasKeyword, isTargetChar c = true := forall_mem_of_all (by decide)
    rw [dropWhile_append_of_stops isGap.blank (stops_aliasKeyword _ _), List.append_assoc]
    simp only [target?, takeWhile_append_of_stops word behind,
      dropWhile_append_of_stops word behind, isClosing_append_name isBetween.blank valid,
      isAlias_append_name isBetween valid closing, Bool.or_self, Bool.and_false,
      Bool.false_eq_true, ↓reduceIte]

theorem target?_eq_some_iff {text target tail : Text} :
    target? text = some (target, tail) ↔
      isDottedIdentifier target = true ∧ IsEnd tail ∧ text = target ++ tail := by
  constructor
  · intro read
    simp only [target?, Option.ite_none_right_eq_some, Bool.and_eq_true, Bool.or_eq_true,
      Option.some.injEq, Prod.mk.injEq] at read
    rcases read with ⟨⟨valid, isEnd⟩, rfl, rfl⟩
    exact ⟨valid, isEnd, by simp⟩
  · rintro ⟨valid, isEnd, rfl⟩
    have inside : ∀ c ∈ target, isTargetChar c = true := fun _ => isTargetChar_of_mem valid
    have ends : (isClosing tail || isAlias tail) = true := by simpa [IsEnd] using isEnd
    simp only [target?, takeWhile_append_of_stops inside (stops_tail isEnd),
      dropWhile_append_of_stops inside (stops_tail isEnd), valid, ends, Bool.and_self, ↓reduceIte]

/-! ## Cuts of an import line -/

/-- The parts that an import line is put together from. -/
def Parts (line : Text) (found : ImportLine) : Prop :=
  ∃ gap between,
    (∀ c ∈ found.indent, isIndent c = true) ∧ IsGap gap ∧ IsGap between ∧
    isDottedIdentifier found.target = true ∧ IsEnd found.tail ∧
    line = found.indent ++ (keyword ++ gap ++
      ((if found.isStatic then staticKeyword ++ between else []) ++
        (found.target ++ found.tail)))

/-- The word `static` is read as a target where no target follows it. -/
theorem static_of_target {target tail : Text} (valid : isDottedIdentifier target = true)
    (isEnd : IsEnd tail) : (afterKeyword? staticKeyword (target ++ tail)).bind target? = none := by
  cases behind : afterKeyword? staticKeyword (target ++ tail) with
  | none => rfl
  | some rest =>
    rcases afterKeyword?_eq_some_iff.1 behind with ⟨stops, gap, isGap, same⟩
    have word : ∀ c ∈ staticKeyword, isTargetChar c = true := forall_mem_of_all (by decide)
    have inside : ∀ c ∈ target, isTargetChar c = true := fun _ => isTargetChar_of_mem valid
    have gapStops : Stops isTargetChar (gap ++ rest) :=
      isGap.stops (fun _ => isBlank_of_isTargetChar) rest
    have tailSame : tail = gap ++ rest := by
      have dropped := congrArg (List.dropWhile isTargetChar) same
      rw [dropWhile_append_of_stops inside (stops_tail isEnd), List.append_assoc,
        dropWhile_append_of_stops word gapStops] at dropped
      exact dropped
    have restSame : rest = tail.dropWhile isBlank := by
      rw [tailSame, dropWhile_append_of_stops isGap.blank stops]
    rw [Option.bind_some, restSame]
    exact target?_of_isEnd isEnd

/-- A line is read as an import line exactly when it is put together from the parts of one. -/
theorem ofLine?_eq_some_iff {line : Text} {found : ImportLine} :
    ofLine? line = some found ↔ Parts line found := by
  constructor
  · intro read
    simp only [ofLine?] at read
    cases behind : afterKeyword? keyword (line.dropWhile isIndent) with
    | none => simp [behind] at read
    | some rest =>
      rcases afterKeyword?_eq_some_iff.1 behind with ⟨-, gap, isGap, keyed⟩
      have joined : line = line.takeWhile isIndent ++ (keyword ++ gap ++ rest) := by
        rw [← keyed, List.takeWhile_append_dropWhile]
      have indented := forall_mem_takeWhile isIndent line
      simp only [behind] at read
      split at read
      · next target tail static =>
        rcases Option.bind_eq_some_iff.1 static with ⟨later, modified, targeted⟩
        rcases afterKeyword?_eq_some_iff.1 modified with ⟨-, between, isBetween, worded⟩
        rcases target?_eq_some_iff.1 targeted with ⟨valid, isEnd, rfl⟩
        cases Option.some.inj read
        refine ⟨gap, between, indented, isGap, isBetween, valid, isEnd, ?_⟩
        rw [if_pos rfl, ← worded]
        exact joined
      · rcases Option.map_eq_some_iff.1 read with ⟨⟨target, tail⟩, targeted, rfl⟩
        rcases target?_eq_some_iff.1 targeted with ⟨valid, isEnd, rfl⟩
        exact ⟨gap, [' '], indented, isGap, isGap_space, valid, isEnd, joined⟩
  · rintro ⟨gap, between, indented, isGap, isBetween, valid, isEnd, rfl⟩
    rcases found with ⟨indent, isStatic, target, tail⟩
    have targeted : target? (target ++ tail) = some (target, tail) :=
      target?_eq_some_iff.2 ⟨valid, isEnd, rfl⟩
    cases isStatic with
    | true =>
      have behind : afterKeyword? keyword (keyword ++ gap ++
          (staticKeyword ++ between ++ (target ++ tail))) =
          some (staticKeyword ++ between ++ (target ++ tail)) :=
        afterKeyword?_eq_some_iff.2 ⟨rfl, gap, isGap, rfl⟩
      have modified : afterKeyword? staticKeyword (staticKeyword ++ between ++ (target ++ tail)) =
          some (target ++ tail) :=
        afterKeyword?_eq_some_iff.2 ⟨stops_target valid tail, between, isBetween, rfl⟩
      simp only [ofLine?, ↓reduceIte]
      rw [dropWhile_append_of_stops indented (stops_keyword _ _),
        takeWhile_append_of_stops indented (stops_keyword _ _)]
      simp only [behind, modified, Option.bind_some, targeted]
    | false =>
      have behind : afterKeyword? keyword (keyword ++ gap ++ ([] ++ (target ++ tail))) =
          some (target ++ tail) :=
        afterKeyword?_eq_some_iff.2 ⟨stops_target valid tail, gap, isGap, rfl⟩
      simp only [ofLine?, Bool.false_eq_true, ↓reduceIte]
      rw [dropWhile_append_of_stops indented (stops_keyword _ _),
        takeWhile_append_of_stops indented (stops_keyword _ _)]
      simp only [behind, static_of_target valid isEnd, targeted, Option.map_some]

theorem isDottedIdentifier_target {line : Text} {found : ImportLine}
    (read : ofLine? line = some found) : isDottedIdentifier found.target = true := by
  rcases ofLine?_eq_some_iff.1 read with ⟨-, -, -, -, -, valid, -, -⟩
  exact valid

/-! ## Printing -/

/-- An import line printed with another target is read with that target. -/
theorem ofLine?_render {line : Text} {found : ImportLine} (read : ofLine? line = some found)
    {target : Text} (valid : isDottedIdentifier target = true) :
    ofLine? (found.render target) = some { found with target } := by
  rcases ofLine?_eq_some_iff.1 read with ⟨-, -, indented, -, -, -, isEnd, -⟩
  refine ofLine?_eq_some_iff.2 ⟨[' '], [' '], indented, isGap_space, isGap_space, valid, isEnd, ?_⟩
  cases static : found.isStatic with
  | true => simp [render, head, modifiers, static]
  | false => simp [render, head, modifiers, static]

/-- An import line that is printed as it was has its own target. -/
theorem target_of_render {line : Text} {found : ImportLine} (read : ofLine? line = some found)
    {target : Text} (stops : Stops isBlank target) (same : found.render target = line) :
    found.target = target := by
  rcases ofLine?_eq_some_iff.1 read with ⟨gap, between, -, isGap, isBetween, valid, -, joined⟩
  have stopsFound : Stops isBlank found.target := by
    have stops := stops_target valid []
    rwa [List.append_nil] at stops
  have whole : found.indent ++ (keyword ++ (([' '] ++ (found.modifiers ++ target)) ++ found.tail)) =
      found.indent ++ (keyword ++ ((gap ++
        ((if found.isStatic then staticKeyword ++ between else []) ++ found.target)) ++
          found.tail)) := by
    calc _ = found.render target := by simp [render, head]
      _ = line := same
      _ = _ := by
        conv => lhs; rw [joined]
        simp only [List.append_assoc]
  have parts := List.append_cancel_right (List.append_cancel_left (List.append_cancel_left whole))
  cases static : found.isStatic with
  | false =>
    have dropped := congrArg (List.dropWhile isBlank) parts
    simp only [static, modifiers, Bool.false_eq_true, ↓reduceIte, List.nil_append] at dropped
    rw [dropWhile_append_of_stops isGap.blank stopsFound,
      dropWhile_append_of_stops isGap_space.blank stops] at dropped
    exact dropped.symm
  | true =>
    have dropped := congrArg (List.dropWhile isBlank) parts
    simp only [static, modifiers, ↓reduceIte, List.append_assoc] at dropped
    rw [dropWhile_append_of_stops isGap_space.blank (stops_staticKeyword _),
      dropWhile_append_of_stops isGap.blank (stops_staticKeyword _)] at dropped
    have targets := congrArg (List.dropWhile isBlank) (List.append_cancel_left dropped)
    rw [dropWhile_append_of_stops isBetween.blank stopsFound,
      dropWhile_append_of_stops isGap_space.blank stops] at targets
    exact targets.symm

/-! ## What is imported -/

theorem owner_append (line : ImportLine) : line.owner.1 ++ line.owner.2 = line.target := by
  simp only [owner]
  split
  · split
    · next before member cut => exact (Text.eq_of_cutLast? cut).1.symm
    · simp
  · simp

/-- Nothing, or the member that a static import takes. -/
theorem exists_pieces_owner (line : ImportLine) :
    ∃ pieces : List Text, line.owner.2 = pieces.flatMap ('.' :: ·) ∧
      ∀ piece ∈ pieces, '.' ∉ piece := by
  simp only [owner]
  split
  · split
    · next before member cut =>
      exact ⟨[member], by simp, by simpa using (Text.eq_of_cutLast? cut).2⟩
    · exact ⟨[], rfl, by simp⟩
  · exact ⟨[], rfl, by simp⟩

/-- The owner that is written before the same member is found again. -/
theorem owner_retarget {line : ImportLine} (dotted : '.' ∈ line.owner.1) (owner' : Text) :
    owner { line with target := owner' ++ line.owner.2 } = (owner', line.owner.2) := by
  cases static : line.isStatic with
  | false => simp [owner, static]
  | true =>
    cases cut : Text.cutLast? '.' line.target with
    | none =>
      -- A static import without a dot has no owner with one.
      simp only [owner, static, cut, ↓reduceIte] at dotted
      exact absurd dotted (Text.cutLast?_eq_none_iff.1 cut)
    | some pair =>
      rcases pair with ⟨before, member⟩
      simp [owner, static, cut, Text.cutLast?_append (Text.eq_of_cutLast? cut).2]

theorem importedClass_eq_ok_iff {line : ImportLine} {name : ClassName} {suffix : Text} :
    line.importedClass = .ok (name, suffix) ↔
      ∃ rest, ClassName.splitMember line.owner.1 = .ok (name, rest) ∧
        suffix = rest ++ line.owner.2 := by
  simp only [importedClass, bind, Except.bind]
  cases ClassName.splitMember line.owner.1 with
  | error failure => simp
  | ok pair =>
    rcases pair with ⟨other, rest⟩
    simp only [Except.ok.injEq, Prod.mk.injEq]
    constructor
    · rintro ⟨rfl, rfl⟩
      exact ⟨rest, ⟨rfl, rfl⟩, rfl⟩
    · rintro ⟨rest', ⟨rfl, rfl⟩, rfl⟩
      exact ⟨rfl, rfl⟩

/-- The target of an import is the qualified name of the class with pieces behind it. -/
theorem exists_pieces_of_importedClass {line : ImportLine} {name : ClassName} {suffix : Text}
    (imported : line.importedClass = .ok (name, suffix)) :
    line.target = name.qualified ++ suffix ∧
      ∃ pieces : List Text, suffix = pieces.flatMap ('.' :: ·) ∧
        ∀ piece ∈ pieces, '.' ∉ piece := by
  rcases importedClass_eq_ok_iff.1 imported with ⟨rest, split, rfl⟩
  rcases ClassName.splitMember_eq_ok_iff.1 split with ⟨owned, -, pieces, rfl, lower⟩
  rcases exists_pieces_owner line with ⟨members, member, free⟩
  refine ⟨?_, pieces ++ members, by rw [member, List.flatMap_append], ?_⟩
  · rw [← owner_append line, owned, List.append_assoc]
  · intro piece listed
    rcases List.mem_append.1 listed with earlier | later
    · exact (lower piece earlier).1
    · exact free piece later

/-- An import that is pointed at another class imports that class, and the same of it. -/
theorem importedClass_retarget {line : ImportLine} {old new : ClassName} {suffix : Text}
    (imported : line.importedClass = .ok (old, suffix)) (upper : new.simple.startsUpper = true) :
    importedClass { line with target := new.qualified ++ suffix } = .ok (new, suffix) := by
  rcases importedClass_eq_ok_iff.1 imported with ⟨rest, split, rfl⟩
  have dotted : '.' ∈ line.owner.1 := by
    rw [(ClassName.splitMember_eq_ok_iff.1 split).1]
    simp [ClassName.qualified]
  have owned := owner_retarget dotted (new.qualified ++ rest)
  rw [List.append_assoc] at owned
  refine importedClass_eq_ok_iff.2 ⟨rest, ?_, by rw [owned]⟩
  rw [owned]
  exact ClassName.splitMember_retarget split upper

/-- What is imported of a class is a target behind any importable class. -/
theorem isDottedIdentifier_retarget {line : ImportLine} {old new : ClassName} {suffix : Text}
    (valid : isDottedIdentifier line.target = true)
    (imported : line.importedClass = .ok (old, suffix)) (importable : new.Importable) :
    isDottedIdentifier (new.qualified ++ suffix) = true := by
  rcases exists_pieces_of_importedClass imported with ⟨targeted, pieces, rfl, free⟩
  refine importable.isDottedIdentifier free fun piece member => ?_
  rw [targeted, isDottedIdentifier, Text.split_append_flatMap free, List.all_eq_true] at valid
  exact valid piece (List.mem_append_right _ member)

theorem suffixOf?_eq_some_iff {line : ImportLine} {name : ClassName} {suffix : Text} :
    line.suffixOf? name = some suffix ↔ line.importedClass = .ok (name, suffix) := by
  simp only [suffixOf?]
  cases line.importedClass with
  | error failure => simp
  | ok pair =>
    rcases pair with ⟨other, rest⟩
    by_cases same : other = name
    · simp [same]
    · simp [same]

end ClassMove.ImportLine
