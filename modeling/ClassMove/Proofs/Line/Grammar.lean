import ClassMove.Proofs.Line.Pattern

/-!
# The grammar of declaration lines

The three kinds of lines are given by languages: what they may be indented with, which
words they begin with, what their name may be and how they may end.  A line of a
grammar is cut into those parts, with white space behind each word.

The readers take the longest run of one class of characters at every step.  It is
shown here that they miss nothing by that: a reader accepts exactly the lines that can
be cut, no line can be cut in two ways, and what is read is the cut.
-/

namespace ClassMove

open Computability

/-! ## Grammars of lines -/

/-- The parts of a line that are kept: the words without the white space behind them. -/
structure Captures where
  indent : Text
  words : List Text
  name : Text
  tail : Text
deriving DecidableEq

/-- A line in parts, each word with the white space behind it. -/
structure LineCut where
  indent : Text
  words : List (Text × Text)
  name : Text
  tail : Text
deriving DecidableEq

namespace LineCut

/-- Words and the white space behind them, put together. -/
def joinWords (words : List (Text × Text)) : Text :=
  words.flatMap fun (word, gap) => word ++ gap

/-- The line that was cut. -/
def line (cut : LineCut) : Text :=
  cut.indent ++ (joinWords cut.words ++ (cut.name ++ cut.tail))

/-- What is kept of a cut. -/
def captures (cut : LineCut) : Captures :=
  ⟨cut.indent, cut.words.map Prod.fst, cut.name, cut.tail⟩

end LineCut

/-- What the parts of a line may be. -/
structure LineGrammar where
  indent : Language Char
  words : Language Text
  name : Language Char
  tail : Language Char

namespace LineGrammar

/-- `package a.b;` -/
def package : LineGrammar where
  indent := Pattern.optional (Pattern.fixed "\uFEFF") * Pattern.indent
  words := Pattern.oneOf ["package"]
  name := Pattern.dotted Pattern.segment
  tail := Pattern.closing

/-- `import static a.b.C.member as other;` -/
def importing : LineGrammar where
  indent := Pattern.indent
  words := Pattern.oneOf ["import"] * (1 + Pattern.oneOf ["static"])
  name := Pattern.dotted Pattern.identifier
  tail := Pattern.optional Pattern.aliasing * Pattern.closing

/-- `public final class Name<T>` -/
def type : LineGrammar where
  indent := Pattern.indent
  words := (Pattern.oneOf Pattern.modifierWords)∗ * Pattern.oneOf Pattern.kindWords
  name := Pattern.identifier
  tail := Pattern.typeTail

/-- Do the parts up to the name have the form that the grammar asks for? -/
structure Begins (grammar : LineGrammar) (cut : LineCut) : Prop where
  indent : cut.indent ∈ grammar.indent
  words : cut.words.map Prod.fst ∈ grammar.words
  gaps : ∀ entry ∈ cut.words, entry.2 ∈ Pattern.gap
  name : cut.name ∈ grammar.name

/-- Is this a way to cut the line? -/
structure Cuts (grammar : LineGrammar) (line : Text) (cut : LineCut) : Prop
    extends grammar.Begins cut where
  tail : cut.tail ∈ grammar.tail
  joined : line = cut.line

/-- Does the reader accept the lines of the grammar, and keep what their only cut says? -/
structure ReadBy (grammar : LineGrammar) {Found : Type} (ofLine? : Text → Option Found)
    (captures : Found → Captures) : Prop where
  accepted : ∀ line, (ofLine? line).isSome = true ↔ ∃ cut, grammar.Cuts line cut
  unique : ∀ line first second, grammar.Cuts line first → grammar.Cuts line second → first = second
  captured : ∀ line found cut, ofLine? line = some found → grammar.Cuts line cut →
    captures found = cut.captures

end LineGrammar

def PackageLine.captures (line : PackageLine) : Captures :=
  ⟨line.indent, [keyword], line.name, line.tail⟩

def ImportLine.captures (line : ImportLine) : Captures :=
  ⟨line.indent, keyword :: (if line.isStatic then [staticKeyword] else []), line.target, line.tail⟩

def TypeLine.captures (line : TypeLine) : Captures :=
  ⟨line.indent, line.modifiers.map Modifier.word ++ [line.kind.word], line.name, line.tail⟩

/-! ## One cut for a line -/

namespace LineCut

theorem joinWords_cons (word gap : Text) (words : List (Text × Text)) :
    joinWords ((word, gap) :: words) = word ++ (gap ++ joinWords words) := by
  simp [joinWords]

/-- Words without white space in them leave only one way to place the white space. -/
theorem words_eq_of_joinWords {first second : List (Text × Text)}
    (firstGaps : ∀ entry ∈ first, IsGap entry.2) (secondGaps : ∀ entry ∈ second, IsGap entry.2)
    (same : first.map Prod.fst = second.map Prod.fst)
    (solid : ∀ word ∈ first.map Prod.fst, ∀ rest, Stops isBlank (word ++ rest))
    (joined : joinWords first = joinWords second) : first = second := by
  induction first generalizing second with
  | nil => exact (List.map_eq_nil_iff.1 same.symm).symm
  | cons entry first ih =>
    cases second with
    | nil => cases same
    | cons other second =>
      rcases entry with ⟨word, gap⟩
      rcases other with ⟨_, gap'⟩
      simp only [List.map_cons, List.cons.injEq] at same
      rcases same with ⟨rfl, same⟩
      simp only [List.forall_mem_cons, List.map_cons] at firstGaps secondGaps solid
      have start : ∀ words : List (Text × Text), words.map Prod.fst = first.map Prod.fst →
          Stops isBlank (joinWords words) := by
        intro words names
        cases words with
        | nil => trivial
        | cons next words =>
          rw [joinWords_cons]
          refine solid.2 _ ?_ _
          rw [← names]
          exact List.mem_cons_self ..
      rw [joinWords_cons, joinWords_cons] at joined
      have behind := List.append_cancel_left joined
      have gaps := congrArg (List.takeWhile isBlank) behind
      rw [takeWhile_append_of_stops firstGaps.1.blank (start first rfl),
        takeWhile_append_of_stops secondGaps.1.blank (start second same.symm)] at gaps
      cases gaps
      rw [ih firstGaps.2 secondGaps.2 same solid.2 (List.append_cancel_left behind)]

end LineCut

namespace LineGrammar

variable {grammar : LineGrammar} {Found : Type} {ofLine? : Text → Option Found}
  {captures : Found → Captures}

/-- A reader that finds every cut, and finds cuts only, leaves no line with two of them. -/
theorem ReadBy.of_cuts
    (solid : ∀ words ∈ grammar.words, ∀ word ∈ words, ∀ rest, Stops isBlank (word ++ rest))
    (found : ∀ line cut, grammar.Cuts line cut →
      ∃ found, ofLine? line = some found ∧ captures found = cut.captures)
    (cut : ∀ line found, ofLine? line = some found →
      ∃ cut, grammar.Cuts line cut ∧ captures found = cut.captures) :
    grammar.ReadBy ofLine? captures := by
  have captured : ∀ line other cut, ofLine? line = some other → grammar.Cuts line cut →
      captures other = cut.captures := by
    intro line other cut read cuts
    rcases found line cut cuts with ⟨same, readAgain, kept⟩
    cases Option.some.inj (read.symm.trans readAgain)
    exact kept
  refine ⟨?_, ?_, captured⟩
  · intro line
    rw [Option.isSome_iff_exists]
    constructor
    · rintro ⟨other, read⟩
      rcases cut line other read with ⟨cut, cuts, -⟩
      exact ⟨cut, cuts⟩
    · rintro ⟨cut, cuts⟩
      rcases found line cut cuts with ⟨other, read, -⟩
      exact ⟨other, read⟩
  · intro line first second firstCuts secondCuts
    rcases found line first firstCuts with ⟨other, read, kept⟩
    have same := kept.symm.trans (captured line other second read secondCuts)
    have joined := firstCuts.joined.symm.trans secondCuts.joined
    rcases first with ⟨indent, words, name, tail⟩
    rcases second with ⟨indent', words', name', tail'⟩
    simp only [LineCut.captures, Captures.mk.injEq] at same
    rcases same with ⟨rfl, sameWords, rfl, rfl⟩
    -- with all else equal, the words and their white space are what is left of the line
    have left := List.append_cancel_right (List.append_cancel_left joined)
    have same : words = words' :=
      LineCut.words_eq_of_joinWords
        (fun entry member => Pattern.mem_gap.1 (firstCuts.gaps entry member))
        (fun entry member => Pattern.mem_gap.1 (secondCuts.gaps entry member)) sameWords
        (solid _ firstCuts.words) left
    rw [same]

/-! ## Package lines -/

theorem mem_words_package {words : List Text} :
    words ∈ package.words ↔ words = [PackageLine.keyword] := by
  constructor
  · rintro ⟨word, listed, rfl⟩
    rw [List.mem_singleton.1 listed]
    rfl
  · rintro rfl
    exact ⟨"package", List.mem_singleton_self _, rfl⟩

theorem package_readBy : package.ReadBy PackageLine.ofLine? PackageLine.captures := by
  apply ReadBy.of_cuts
  · intro words worded word member rest
    rw [mem_words_package.1 worded] at member
    rw [List.mem_singleton.1 member]
    rfl
  · rintro line ⟨indent, words, name, tail⟩ ⟨⟨indented, worded, gaps, named⟩, ends, rfl⟩
    rcases List.map_eq_singleton_iff.1 (mem_words_package.1 worded) with ⟨⟨-, gap⟩, rfl, rfl⟩
    rcases Language.mem_mul.1 indented with ⟨mark, marked, blanks, blank, rfl⟩
    refine ⟨⟨mark ++ blanks, name, tail⟩, ?_, rfl⟩
    refine PackageLine.ofLine?_eq_some_iff.2 ⟨mark, blanks, gap, ?_, Pattern.mem_indent.1 blank,
      Pattern.mem_gap.1 (gaps _ (List.mem_cons_self ..)), Pattern.mem_dotted_segment.1 named,
      Pattern.mem_closing.1 ends, rfl, ?_⟩
    · rcases Pattern.mem_optional.1 marked with rfl | rfl
      · exact .inr rfl
      · exact .inl rfl
    · simp [LineCut.line, LineCut.joinWords]
  · intro line found read
    rcases PackageLine.ofLine?_eq_some_iff.1 read with
      ⟨mark, blanks, gap, marked, indented, isGap, valid, closes, shown, rfl⟩
    refine ⟨⟨found.indent, [(PackageLine.keyword, gap)], found.name, found.tail⟩,
      ⟨⟨?_, mem_words_package.2 rfl, by simpa using Pattern.mem_gap.2 isGap,
        Pattern.mem_dotted_segment.2 valid⟩, Pattern.mem_closing.2 closes, ?_⟩, rfl⟩
    · refine Language.mem_mul.2
        ⟨mark, Pattern.mem_optional.2 ?_, blanks, Pattern.mem_indent.2 indented, shown.symm⟩
      rcases marked with rfl | rfl
      · exact .inr rfl
      · exact .inl rfl
    · simp [LineCut.line, LineCut.joinWords, shown]

/-! ## Import lines -/

theorem mem_words_importing {words : List Text} :
    words ∈ importing.words ↔ ∃ isStatic : Bool,
      words = ImportLine.keyword :: (if isStatic then [ImportLine.staticKeyword] else []) := by
  simp only [importing, Language.mem_mul, Language.mem_add, Language.mem_one, Pattern.mem_oneOf,
    List.mem_singleton, exists_eq_left]
  constructor
  · rintro ⟨rest, rfl | rfl, rfl⟩
    · exact ⟨false, rfl⟩
    · exact ⟨true, rfl⟩
  · rintro ⟨isStatic, rfl⟩
    cases isStatic with
    | false => exact ⟨[], .inl rfl, rfl⟩
    | true => exact ⟨_, .inr rfl, rfl⟩

/-- The words of an import line with the white space behind them. -/
theorem exists_gaps_of_words {isStatic : Bool} {words : List (Text × Text)}
    (spelled : words.map Prod.fst =
      ImportLine.keyword :: (if isStatic then [ImportLine.staticKeyword] else []))
    (gaps : ∀ entry ∈ words, entry.2 ∈ Pattern.gap) :
    ∃ gap between, IsGap gap ∧ IsGap between ∧
      LineCut.joinWords words = ImportLine.keyword ++ gap ++
        (if isStatic then ImportLine.staticKeyword ++ between else []) := by
  rcases List.map_eq_cons_iff.1 spelled with ⟨⟨-, gap⟩, others, rfl, rfl, rest⟩
  simp only [List.forall_mem_cons] at gaps
  cases isStatic with
  | false =>
    rw [List.map_eq_nil_iff.1 rest]
    exact ⟨gap, [' '], Pattern.mem_gap.1 gaps.1, isGap_space, by simp [LineCut.joinWords]⟩
  | true =>
    rcases List.map_eq_singleton_iff.1 rest with ⟨⟨-, between⟩, rfl, rfl⟩
    refine ⟨gap, between, Pattern.mem_gap.1 gaps.1, Pattern.mem_gap.1 ?_, ?_⟩
    · exact gaps.2 _ (List.mem_cons_self ..)
    · simp [LineCut.joinWords]

theorem importing_readBy : importing.ReadBy ImportLine.ofLine? ImportLine.captures := by
  apply ReadBy.of_cuts
  · intro words worded word member rest
    rcases mem_words_importing.1 worded with ⟨isStatic, rfl⟩
    cases isStatic with
    | false =>
      rw [List.mem_singleton.1 member]
      rfl
    | true =>
      simp only [↓reduceIte, List.mem_cons, List.not_mem_nil, or_false] at member
      rcases member with rfl | rfl
      · rfl
      · rfl
  · rintro line ⟨indent, words, name, tail⟩ ⟨⟨indented, worded, gaps, named⟩, ends, rfl⟩
    rcases mem_words_importing.1 worded with ⟨isStatic, spelled⟩
    rcases exists_gaps_of_words spelled gaps with ⟨gap, between, isGap, isBetween, joined⟩
    refine ⟨⟨indent, isStatic, name, tail⟩, ?_, ?_⟩
    · refine ImportLine.ofLine?_eq_some_iff.2 ⟨gap, between, Pattern.mem_indent.1 indented, isGap,
        isBetween, Pattern.mem_dotted_identifier.1 named, Pattern.mem_importTail.1 ends, ?_⟩
      simp only [LineCut.line, joined, List.append_assoc]
    · rw [LineCut.captures, spelled]
      rfl
  · intro line found read
    rcases ImportLine.ofLine?_eq_some_iff.1 read with
      ⟨gap, between, indented, isGap, isBetween, valid, isEnd, rfl⟩
    refine ⟨⟨found.indent, (ImportLine.keyword, gap) ::
        (if found.isStatic then [(ImportLine.staticKeyword, between)] else []),
        found.target, found.tail⟩,
      ⟨⟨Pattern.mem_indent.2 indented, mem_words_importing.2 ⟨found.isStatic, ?_⟩, ?_,
        Pattern.mem_dotted_identifier.2 valid⟩, Pattern.mem_importTail.2 isEnd, ?_⟩, ?_⟩
    · cases found.isStatic with
      | false => rfl
      | true => rfl
    · cases found.isStatic with
      | false => simpa using Pattern.mem_gap.2 isGap
      | true => simpa using ⟨Pattern.mem_gap.2 isGap, Pattern.mem_gap.2 isBetween⟩
    · cases found.isStatic with
      | false => simp [LineCut.line, LineCut.joinWords]
      | true => simp [LineCut.line, LineCut.joinWords]
    · rcases found with ⟨indent, isStatic, target, tail⟩
      cases isStatic with
      | false => rfl
      | true => rfl

/-! ## Type lines -/

theorem mem_kstar_modifierWords {words : List Text} :
    words ∈ (Pattern.oneOf Pattern.modifierWords)∗ ↔
      ∃ modifiers : List Modifier, words = modifiers.map Modifier.word := by
  have spelled : Pattern.modifierWords.map String.toList = Modifier.all.map Modifier.word := rfl
  refine Pattern.mem_kstar_oneOf_iff spelled fun modifier => ?_
  cases modifier <;> decide

theorem mem_kindWords {words : List Text} :
    words ∈ Pattern.oneOf Pattern.kindWords ↔ ∃ kind : TypeKind, words = [kind.word] := by
  have spelled : Pattern.kindWords.map String.toList = TypeKind.all.map TypeKind.word := rfl
  have complete : ∀ kind : TypeKind, kind ∈ TypeKind.all := by
    intro kind
    cases kind <;> decide
  rw [Pattern.mem_oneOf_iff spelled]
  simp [complete]

theorem mem_words_type {words : List Text} :
    words ∈ type.words ↔ ∃ (modifiers : List Modifier) (kind : TypeKind),
      words = modifiers.map Modifier.word ++ [kind.word] := by
  simp only [type, Language.mem_mul, mem_kstar_modifierWords, mem_kindWords]
  constructor
  · rintro ⟨-, ⟨modifiers, rfl⟩, -, ⟨kind, rfl⟩, rfl⟩
    exact ⟨modifiers, kind, rfl⟩
  · rintro ⟨modifiers, kind, rfl⟩
    exact ⟨_, ⟨modifiers, rfl⟩, _, ⟨kind, rfl⟩, rfl⟩

/-- Words that are modifiers, with the white space behind them. -/
theorem exists_modifiers_of_words {modifiers : List Modifier} {words : List (Text × Text)}
    (spelled : words.map Prod.fst = modifiers.map Modifier.word)
    (gaps : ∀ entry ∈ words, entry.2 ∈ Pattern.gap) :
    ∃ entries : List (Modifier × Text), entries.map Prod.fst = modifiers ∧
      (∀ entry ∈ entries, IsGap entry.2) ∧
      LineCut.joinWords words = TypeLine.joinModifiers entries := by
  induction modifiers generalizing words with
  | nil =>
    rw [List.map_eq_nil_iff.1 spelled]
    exact ⟨[], rfl, by simp, rfl⟩
  | cons modifier modifiers ih =>
    rcases List.map_eq_cons_iff.1 spelled with ⟨⟨-, gap⟩, others, rfl, rfl, rest⟩
    simp only [List.forall_mem_cons] at gaps
    rcases ih rest gaps.2 with ⟨entries, names, isGaps, joined⟩
    refine ⟨(modifier, gap) :: entries, by rw [List.map_cons, names], ?_, ?_⟩
    · exact List.forall_mem_cons.2 ⟨Pattern.mem_gap.1 gaps.1, isGaps⟩
    · rw [LineCut.joinWords_cons, TypeLine.joinModifiers_cons, joined, List.append_assoc]

theorem type_readBy : type.ReadBy TypeLine.ofLine? TypeLine.captures := by
  apply ReadBy.of_cuts
  · intro words worded word member rest
    rcases mem_words_type.1 worded with ⟨modifiers, kind, rfl⟩
    rcases List.mem_append.1 member with modified | single
    · rcases List.mem_map.1 modified with ⟨modifier, -, rfl⟩
      exact modifier.stops rest
    · rw [List.mem_singleton.1 single]
      exact kind.stops rest
  · rintro line ⟨indent, words, name, tail⟩ ⟨⟨indented, worded, gaps, named⟩, ends, rfl⟩
    rcases mem_words_type.1 worded with ⟨modifiers, kind, spelled⟩
    rcases List.map_eq_append_iff.1 spelled with ⟨front, last, rfl, modified, single⟩
    rcases List.map_eq_singleton_iff.1 single with ⟨⟨-, gap⟩, rfl, rfl⟩
    simp only [List.forall_mem_append, List.forall_mem_singleton] at gaps
    rcases exists_modifiers_of_words modified gaps.1 with ⟨entries, rfl, isGaps, joined⟩
    refine ⟨⟨indent, entries.map Prod.fst, kind, name, tail⟩, ?_, ?_⟩
    · refine TypeLine.ofLine?_eq_some_iff.2 ⟨entries, gap, Pattern.mem_indent.1 indented, isGaps,
        Pattern.mem_gap.1 gaps.2, Pattern.mem_identifier.1 named, Pattern.mem_typeTail.1 ends, rfl,
        ?_⟩
      simp [LineCut.line, ← joined, LineCut.joinWords]
    · rw [LineCut.captures, spelled]
      rfl
  · intro line found read
    rcases TypeLine.ofLine?_eq_some_iff.1 read with
      ⟨entries, gap, indented, gaps, isGap, valid, isTail, names, rfl⟩
    have spelled : (entries.map (fun entry => (entry.1.word, entry.2)) ++
        [(found.kind.word, gap)]).map Prod.fst =
          found.modifiers.map Modifier.word ++ [found.kind.word] := by
      simp [names]
    refine ⟨⟨found.indent, entries.map (fun entry => (entry.1.word, entry.2)) ++
        [(found.kind.word, gap)], found.name, found.tail⟩,
      ⟨⟨Pattern.mem_indent.2 indented, mem_words_type.2 ⟨_, _, spelled⟩, ?_,
        Pattern.mem_identifier.2 valid⟩, Pattern.mem_typeTail.2 isTail, ?_⟩, ?_⟩
    · intro entry member
      rcases List.mem_append.1 member with earlier | last
      · rcases List.mem_map.1 earlier with ⟨known, listed, rfl⟩
        exact Pattern.mem_gap.2 (gaps known listed)
      · rw [List.mem_singleton.1 last]
        exact Pattern.mem_gap.2 isGap
    · simp [LineCut.line, LineCut.joinWords, TypeLine.joinModifiers, List.flatMap_map]
    · rw [LineCut.captures, spelled]
      rfl

end LineGrammar

/-! ## Wildcards -/

namespace ImportLine

/-- A run of target characters with a dot at its end is no target. -/
theorem isDottedIdentifier_dot (target : Text) : isDottedIdentifier (target ++ ['.']) = false := by
  rw [isDottedIdentifier, Text.split_append_separator]
  simp [Text.split, isIdentifier]

theorem concat_dot_ne {target word : Text} (other : word.getLast? ≠ some '.') :
    target ++ ['.'] ≠ word := by
  rintro rfl
  exact other List.getLast?_concat

theorem takeWhile_wildcard {target : Text} (valid : isDottedIdentifier target = true)
    (rest : Text) :
    (target ++ '.' :: '*' :: rest).takeWhile isTargetChar = target ++ ['.'] := by
  have inside : ∀ c ∈ target ++ ['.'], isTargetChar c = true := by
    intro c member
    rcases List.mem_append.1 member with earlier | last
    · exact isTargetChar_of_mem valid earlier
    · rw [List.mem_singleton.1 last]
      rfl
  have stops : Stops isTargetChar ('*' :: rest) := rfl
  rw [List.append_cons, takeWhile_append_of_stops inside stops]

theorem target?_wildcard {target : Text} (valid : isDottedIdentifier target = true) (rest : Text) :
    target? (target ++ '.' :: '*' :: rest) = none := by
  simp only [target?, takeWhile_wildcard valid, isDottedIdentifier_dot, Bool.false_and,
    Bool.false_eq_true, ↓reduceIte]

/-- The only word that a line may end with is `as`. -/
theorem takeWhile_of_isEnd {tail : Text} (isEnd : IsEnd tail) :
    (tail.dropWhile isBlank).takeWhile isTargetChar = [] ∨
      (tail.dropWhile isBlank).takeWhile isTargetChar = aliasKeyword := by
  rcases isEnd with closing | isAlias
  · exact .inl (takeWhile_of_isClosing closing)
  · right
    rcases exists_of_isAlias isAlias with ⟨gap, between, name, rest, isGap, isBetween, -, -, rfl⟩
    have word : ∀ c ∈ aliasKeyword, isTargetChar c = true := forall_mem_of_all (by decide)
    have behind : Stops isTargetChar (between ++ (name ++ rest)) :=
      isBetween.stops (fun _ => isBlank_of_isTargetChar) _
    rw [dropWhile_append_of_stops isGap.blank (stops_aliasKeyword _ _), List.append_assoc,
      takeWhile_append_of_stops word behind]

/-- The word `static` is no target before a wildcard. -/
theorem target?_static_wildcard {gap target : Text} (isGap : IsGap gap)
    (valid : isDottedIdentifier target = true) (rest : Text) :
    target? (staticKeyword ++ gap ++ (target ++ '.' :: '*' :: rest)) = none := by
  have word : ∀ c ∈ staticKeyword, isTargetChar c = true := forall_mem_of_all (by decide)
  have stops : Stops isTargetChar (gap ++ (target ++ '.' :: '*' :: rest)) :=
    isGap.stops (fun _ => isBlank_of_isTargetChar) _
  have noEnd : ¬ IsEnd (gap ++ (target ++ '.' :: '*' :: rest)) := by
    intro isEnd
    have run := takeWhile_of_isEnd isEnd
    rw [dropWhile_append_of_stops isGap.blank (stops_target valid _),
      takeWhile_wildcard valid] at run
    rcases run with empty | word
    · exact concat_dot_ne (by decide) empty
    · exact concat_dot_ne (by decide) word
  simp only [IsEnd, not_or, Bool.not_eq_true] at noEnd
  rw [List.append_assoc]
  simp only [target?, takeWhile_append_of_stops word stops, dropWhile_append_of_stops word stops,
    noEnd, Bool.or_self, Bool.and_false, Bool.false_eq_true, ↓reduceIte]

theorem afterKeyword?_static_wildcard {target : Text} (valid : isDottedIdentifier target = true)
    (rest : Text) : afterKeyword? staticKeyword (target ++ '.' :: '*' :: rest) = none := by
  cases behind : afterKeyword? staticKeyword (target ++ '.' :: '*' :: rest) with
  | none => rfl
  | some later =>
    exfalso
    rcases afterKeyword?_eq_some_iff.1 behind with ⟨-, gap, isGap, same⟩
    have word : ∀ c ∈ staticKeyword, isTargetChar c = true := forall_mem_of_all (by decide)
    have run := congrArg (List.takeWhile isTargetChar) same
    rw [takeWhile_wildcard valid, List.append_assoc, takeWhile_append_of_stops word
      (isGap.stops (fun _ => isBlank_of_isTargetChar) later)] at run
    exact concat_dot_ne (by decide) run

/-- An import of everything below a name is not read. -/
theorem ofLine?_wildcard {cut : LineCut} (begins : LineGrammar.importing.Begins cut) {rest : Text}
    (wildcard : cut.tail = '.' :: '*' :: rest) : ofLine? cut.line = none := by
  rcases LineGrammar.mem_words_importing.1 begins.words with ⟨isStatic, spelled⟩
  rcases LineGrammar.exists_gaps_of_words spelled begins.gaps with
    ⟨gap, between, isGap, isBetween, joined⟩
  have indented := Pattern.mem_indent.1 begins.indent
  have valid := Pattern.mem_dotted_identifier.1 begins.name
  simp only [ofLine?, LineCut.line, joined, wildcard]
  rw [List.append_assoc, dropWhile_append_of_stops indented (stops_keyword _ _)]
  cases isStatic with
  | true =>
    have behind : afterKeyword? keyword (keyword ++ gap ++
        (staticKeyword ++ between ++ (cut.name ++ '.' :: '*' :: rest))) =
        some (staticKeyword ++ between ++ (cut.name ++ '.' :: '*' :: rest)) :=
      afterKeyword?_eq_some_iff.2 ⟨rfl, gap, isGap, rfl⟩
    have modified : afterKeyword? staticKeyword
        (staticKeyword ++ between ++ (cut.name ++ '.' :: '*' :: rest)) =
        some (cut.name ++ '.' :: '*' :: rest) :=
      afterKeyword?_eq_some_iff.2 ⟨stops_target valid _, between, isBetween, rfl⟩
    simp only [↓reduceIte, behind, modified, Option.bind_some, target?_wildcard valid,
      target?_static_wildcard isBetween valid, Option.map_none]
  | false =>
    have behind : afterKeyword? keyword (keyword ++ gap ++
        ([] ++ (cut.name ++ '.' :: '*' :: rest))) = some (cut.name ++ '.' :: '*' :: rest) :=
      afterKeyword?_eq_some_iff.2 ⟨stops_target valid _, gap, isGap, rfl⟩
    simp only [Bool.false_eq_true, ↓reduceIte, behind, afterKeyword?_static_wildcard valid,
      Option.bind_none, target?_wildcard valid, Option.map_none]

end ImportLine

/-! ## The readers -/

/-- Each reader accepts exactly the lines of its grammar, whose cut is unique, and keeps that cut.
An import of everything below a name is a line of no grammar, and no line is of two. -/
theorem readers_follow_grammars :
    LineGrammar.package.ReadBy PackageLine.ofLine? PackageLine.captures ∧
    LineGrammar.importing.ReadBy ImportLine.ofLine? ImportLine.captures ∧
    LineGrammar.type.ReadBy TypeLine.ofLine? TypeLine.captures ∧
    (∀ cut rest, LineGrammar.importing.Begins cut → cut.tail = ".*".toList ++ rest →
      ImportLine.ofLine? cut.line = none) ∧
    ∀ line, ¬ ((PackageLine.ofLine? line).isSome = true ∧ (ImportLine.ofLine? line).isSome = true) ∧
      ¬ ((PackageLine.ofLine? line).isSome = true ∧ (TypeLine.ofLine? line).isSome = true) ∧
      ¬ ((ImportLine.ofLine? line).isSome = true ∧ (TypeLine.ofLine? line).isSome = true) := by
  refine ⟨LineGrammar.package_readBy, LineGrammar.importing_readBy, LineGrammar.type_readBy,
    fun cut rest begins wildcard => ImportLine.ofLine?_wildcard begins wildcard, fun line => ?_⟩
  rcases Line.ofText_cases line with ⟨found, -, read, second, third⟩ |
    ⟨found, -, read, second, third⟩ | ⟨found, -, read, second, third⟩ | ⟨-, read, second, third⟩
  · simp [second, third]
  · simp [second, third]
  · simp [second, third]
  · simp [read, second]

/-- Something called `static` is imported under another name; a static import of everything below
a name is not read. -/
theorem readers_follow_grammars_static :
    (∃ cut, LineGrammar.importing.Cuts "import static as x;".toList cut ∧
      cut.captures = ⟨[], ["import".toList], "static".toList, " as x;".toList⟩) ∧
    ImportLine.ofLine? "import static a.*;".toList = none := by
  constructor
  · rcases (readers_follow_grammars.2.1.accepted "import static as x;".toList).1
      (by decide +kernel) with ⟨cut, cuts⟩
    refine ⟨cut, cuts, ?_⟩
    have read : ImportLine.ofLine? "import static as x;".toList =
        some ⟨[], false, "static".toList, " as x;".toList⟩ := by decide +kernel
    exact (readers_follow_grammars.2.1.captured _ _ cut read cuts).symm
  · have begins : LineGrammar.importing.Begins
        ⟨[], [("import".toList, [' ']), ("static".toList, [' '])], "a".toList, ".*;".toList⟩ := by
      refine ⟨Pattern.mem_indent.2 (by simp), LineGrammar.mem_words_importing.2 ⟨true, rfl⟩, ?_,
        Pattern.mem_dotted_identifier.2 (by decide +kernel)⟩
      simpa using Pattern.mem_gap.2 isGap_space
    exact readers_follow_grammars.2.2.2.1 _ ";".toList begins rfl

end ClassMove
