import ClassMove.Proofs.Line.Basic
import Mathlib.Computability.Language

/-!
# Languages for the parts of a line

The parts of a declaration line are given by languages that are built from classes of
characters and fixed texts.  Each of them is shown to be what the readers test for:
names of packages and dotted identifiers, words out of a list, and the ways in which a
line may end.
-/

namespace ClassMove

open Computability

/-! ## Languages of characters -/

namespace Pattern

/-- One character of a class. -/
def one (p : Char → Bool) : Language Char :=
  fun text => ∃ c, p c = true ∧ text = [c]

/-- One character out of a range. -/
def range (low high : Char) : Language Char :=
  one fun c => decide (low ≤ c ∧ c ≤ high)

/-- A fixed text. -/
def fixed (text : String) : Language Char :=
  {text.toList}

/-- A part that may be missing. -/
def optional (part : Language Char) : Language Char :=
  1 + part

/-- A part that stands there once or more often. -/
def many (part : Language Char) : Language Char :=
  part * part∗

/-- Parts with a dot between each two of them. -/
def dotted (part : Language Char) : Language Char :=
  part * (fixed "." * part)∗

/-- White space between two words. -/
def gap : Language Char :=
  many (one isBlank)

def letter : Language Char :=
  range 'A' 'Z' + range 'a' 'z'

/-- A segment of a package name. -/
def segment : Language Char :=
  many (letter + range '0' '9' + fixed "_")

def identifier : Language Char :=
  (letter + fixed "_" + fixed "$") * (one isWord + fixed "$")∗

/-- Spaces and tabs. -/
def indent : Language Char :=
  (fixed " " + fixed "\t")∗

/-- White space, and perhaps a semicolon or a comment. -/
def closing : Language Char :=
  (one isBlank)∗ * optional (fixed ";" * ⊤ + fixed "//" * ⊤)

/-- Another name for what is imported. -/
def aliasing : Language Char :=
  gap * fixed "as" * gap * identifier

/-- What follows the name of a type. -/
def typeTail : Language Char :=
  optional ((one isBlank + fixed "<" + fixed "\x7b" + fixed "(") * ⊤)

/-- The words that may stand before the kind of a type. -/
def modifierWords : List String :=
  ["public", "protected", "private", "abstract", "final", "static", "strictfp", "sealed",
    "non-sealed"]

/-- The kinds of types. -/
def kindWords : List String :=
  ["class", "interface", "enum", "record", "@interface", "trait"]

/-- One word out of a list. -/
def oneOf (words : List String) : Language Text :=
  fun found => ∃ word ∈ words, found = [word.toList]

/-! ## What the languages are -/

theorem mem_one {p : Char → Bool} {text : Text} : text ∈ one p ↔ ∃ c, p c = true ∧ text = [c] :=
  Iff.rfl

theorem mem_fixed {text : String} {found : Text} : found ∈ fixed text ↔ found = text.toList :=
  Iff.rfl

theorem mem_oneOf {words : List String} {found : List Text} :
    found ∈ oneOf words ↔ ∃ word ∈ words, found = [word.toList] :=
  Iff.rfl

theorem mem_optional {part : Language Char} {text : Text} :
    text ∈ optional part ↔ text = [] ∨ text ∈ part := by
  rw [optional, Language.mem_add, Language.mem_one]

theorem one_add_one (p q : Char → Bool) : one p + one q = one fun c => p c || q c := by
  apply Language.ext
  intro text
  simp only [Language.mem_add, mem_one, Bool.or_eq_true]
  constructor
  · rintro (⟨c, inside, rfl⟩ | ⟨c, inside, rfl⟩)
    · exact ⟨c, .inl inside, rfl⟩
    · exact ⟨c, .inr inside, rfl⟩
  · rintro ⟨c, inside | inside, rfl⟩
    · exact .inl ⟨c, inside, rfl⟩
    · exact .inr ⟨c, inside, rfl⟩

theorem fixed_eq_one {text : String} {c : Char} (single : text.toList = [c]) :
    fixed text = one (· == c) := by
  apply Language.ext
  intro found
  simp [mem_fixed, mem_one, single]

theorem mem_kstar_one {p : Char → Bool} {text : Text} :
    text ∈ (one p)∗ ↔ ∀ c ∈ text, p c = true := by
  rw [Language.mem_kstar]
  constructor
  · rintro ⟨pieces, rfl, inside⟩ c member
    rcases List.mem_flatten.1 member with ⟨piece, listed, within⟩
    rcases inside piece listed with ⟨d, valid, rfl⟩
    rw [List.mem_singleton.1 within]
    exact valid
  · intro inside
    refine ⟨text.map ([·]), (List.flatMap_singleton' text).symm, ?_⟩
    intro piece listed
    rcases List.mem_map.1 listed with ⟨c, member, rfl⟩
    exact ⟨c, inside c member, rfl⟩

theorem mem_many_one {p : Char → Bool} {text : Text} :
    text ∈ many (one p) ↔ text ≠ [] ∧ ∀ c ∈ text, p c = true := by
  rw [many, Language.mem_mul]
  constructor
  · rintro ⟨first, ⟨c, valid, rfl⟩, rest, inside, rfl⟩
    exact ⟨by simp, by simpa using ⟨valid, mem_kstar_one.1 inside⟩⟩
  · rintro ⟨nonempty, inside⟩
    cases text with
    | nil => exact absurd rfl nonempty
    | cons c rest =>
      simp only [List.forall_mem_cons] at inside
      exact ⟨[c], ⟨c, inside.1, rfl⟩, rest, mem_kstar_one.2 inside.2, rfl⟩

theorem mem_gap {text : Text} : text ∈ gap ↔ IsGap text := by
  rw [gap, mem_many_one]
  exact ⟨fun ⟨nonempty, blank⟩ => ⟨nonempty, blank⟩, fun isGap => ⟨isGap.nonempty, isGap.blank⟩⟩

theorem mem_indent {text : Text} : text ∈ indent ↔ ∀ c ∈ text, isIndent c = true := by
  rw [indent, fixed_eq_one (c := ' ') rfl, fixed_eq_one (c := '\t') rfl, one_add_one]
  exact mem_kstar_one

/-- Parts with dots between them are the pieces that cutting at the dots gives. -/
theorem mem_dotted {part : Language Char} (free : ∀ text ∈ part, '.' ∉ text) {text : Text} :
    text ∈ dotted part ↔ ∀ piece ∈ Text.split '.' text, piece ∈ part := by
  rw [dotted, Language.mem_mul]
  constructor
  · rintro ⟨first, inPart, rest, repeated, rfl⟩
    rcases Language.mem_kstar.1 repeated with ⟨groups, rfl, grouped⟩
    have exists_pieces : ∃ pieces : List Text, groups.flatten = pieces.flatMap ('.' :: ·) ∧
        ∀ piece ∈ pieces, piece ∈ part := by
      clear repeated
      induction groups with
      | nil => exact ⟨[], rfl, by simp⟩
      | cons group groups ih =>
        simp only [List.forall_mem_cons] at grouped
        rcases ih grouped.2 with ⟨pieces, joined, valid⟩
        rcases Language.mem_mul.1 grouped.1 with ⟨dot, rfl, piece, inside, rfl⟩
        exact ⟨piece :: pieces, by simp [joined], by simpa using ⟨inside, valid⟩⟩
    rcases exists_pieces with ⟨pieces, joined, valid⟩
    rw [joined, Text.split_append_flatMap fun piece member => free piece (valid piece member),
      Text.split_of_notMem (free first inPart)]
    simpa using ⟨inPart, valid⟩
  · intro inside
    cases cut : Text.split '.' text with
    | nil => exact absurd cut (Text.split_ne_nil '.' text)
    | cons first pieces =>
      rw [cut, List.forall_mem_cons] at inside
      refine ⟨first, inside.1, pieces.flatMap ('.' :: ·), ?_, ?_⟩
      · rw [List.flatMap_def]
        apply Language.join_mem_kstar
        intro group listed
        rcases List.mem_map.1 listed with ⟨piece, member, rfl⟩
        exact ⟨['.'], rfl, piece, inside.2 piece member, rfl⟩
      · rw [← Text.join_cons_eq_flatMap, ← cut, Text.join_split]

/-! ### Words -/

section Words

variable {Item : Type} {all : List Item} {word : Item → Text} {words : List String}

theorem mem_oneOf_iff (spelled : words.map String.toList = all.map word) {found : List Text} :
    found ∈ oneOf words ↔ ∃ item ∈ all, found = [word item] := by
  have texts : found ∈ oneOf words ↔ ∃ text ∈ words.map String.toList, found = [text] := by
    simp [mem_oneOf]
  rw [texts, spelled]
  simp

theorem mem_kstar_oneOf_iff (spelled : words.map String.toList = all.map word)
    (complete : ∀ item, item ∈ all) {found : List Text} :
    found ∈ (oneOf words)∗ ↔ ∃ items : List Item, found = items.map word := by
  rw [Language.mem_kstar]
  constructor
  · rintro ⟨groups, rfl, grouped⟩
    induction groups with
    | nil => exact ⟨[], rfl⟩
    | cons group groups ih =>
      simp only [List.forall_mem_cons] at grouped
      rcases ih grouped.2 with ⟨items, joined⟩
      rcases (mem_oneOf_iff spelled).1 grouped.1 with ⟨item, -, rfl⟩
      exact ⟨item :: items, by simp [joined]⟩
  · rintro ⟨items, rfl⟩
    refine ⟨items.map fun item => [word item], ?_, ?_⟩
    · rw [← List.flatMap_def, List.map_eq_flatMap]
    · intro group listed
      rcases List.mem_map.1 listed with ⟨item, -, rfl⟩
      exact (mem_oneOf_iff spelled).2 ⟨item, complete item, rfl⟩

end Words

/-! ### Names -/

theorem letter_eq : letter = one Char.isAlpha := by
  rw [letter, range, range, one_add_one]
  congr 1
  funext c
  delta Char.isAlpha Char.isUpper Char.isLower
  simp [Char.le_def]

theorem mem_segment {text : Text} : text ∈ segment ↔ isSegment text = true := by
  have classes : letter + range '0' '9' + fixed "_" = one isSegmentChar := by
    rw [letter_eq, range, fixed_eq_one (c := '_') rfl, one_add_one, one_add_one]
    congr 1
    funext c
    simp [isSegmentChar, Char.isAlphanum, Char.isDigit, Char.le_def]
  rw [segment, classes, mem_many_one]
  simp [isSegment]

theorem mem_identifier {text : Text} : text ∈ identifier ↔ isIdentifier text = true := by
  have starts : letter + fixed "_" + fixed "$" = one isIdentifierStart := by
    rw [letter_eq, fixed_eq_one (c := '_') rfl, fixed_eq_one (c := '$') rfl, one_add_one,
      one_add_one]
    rfl
  have rests : one isWord + fixed "$" = one isIdentifierRest := by
    rw [fixed_eq_one (c := '$') rfl, one_add_one]
    rfl
  rw [identifier, starts, rests, Language.mem_mul]
  constructor
  · rintro ⟨first, ⟨c, start, rfl⟩, rest, inside, rfl⟩
    simpa [isIdentifier] using ⟨start, mem_kstar_one.1 inside⟩
  · intro valid
    cases text with
    | nil => cases valid
    | cons c rest =>
      simp only [isIdentifier, Bool.and_eq_true, List.all_eq_true] at valid
      exact ⟨[c], ⟨c, valid.1, rfl⟩, rest, mem_kstar_one.2 valid.2, rfl⟩

theorem mem_dotted_segment {text : Text} :
    text ∈ dotted segment ↔ isPackageName text = true := by
  have free : ∀ text ∈ segment, '.' ∉ text := by
    intro text inside member
    have valid := mem_segment.1 inside
    simp only [isSegment, Bool.and_eq_true, List.all_eq_true] at valid
    exact absurd (valid.2 _ member) (by decide)
  simp only [mem_dotted free, mem_segment, isPackageName, List.all_eq_true]

theorem mem_dotted_identifier {text : Text} :
    text ∈ dotted identifier ↔ isDottedIdentifier text = true := by
  have free : ∀ text ∈ identifier, '.' ∉ text := by
    intro text inside member
    exact absurd (isIdentifierRest_of_mem (mem_identifier.1 inside) member) (by decide)
  simp only [mem_dotted free, mem_identifier, isDottedIdentifier, List.all_eq_true]

/-! ### Ends -/

theorem mem_closing {text : Text} : text ∈ closing ↔ isClosing text = true := by
  simp only [closing, Language.mem_mul, mem_optional, Language.mem_add, mem_fixed, mem_kstar_one]
  constructor
  · rintro ⟨blanks, blank, rest, ending, rfl⟩
    rcases ending with rfl | ⟨mark, rfl, rest, -, rfl⟩ | ⟨mark, rfl, rest, -, rfl⟩
    · rw [isClosing, dropWhile_append_of_stops blank (show Stops isBlank [] from trivial)]
    · show isClosing (blanks ++ ';' :: rest) = true
      rw [isClosing, dropWhile_append_of_stops blank (show Stops isBlank (';' :: rest) from rfl)]
      rfl
    · show isClosing (blanks ++ '/' :: '/' :: rest) = true
      rw [isClosing,
        dropWhile_append_of_stops blank (show Stops isBlank ('/' :: '/' :: rest) from rfl)]
      rfl
  · intro closes
    refine ⟨text.takeWhile isBlank, forall_mem_takeWhile isBlank text, text.dropWhile isBlank, ?_,
      List.takeWhile_append_dropWhile⟩
    simp only [isClosing] at closes
    split at closes
    · next same => exact .inl same
    · next rest same => exact .inr (.inl ⟨[';'], rfl, rest, trivial, same.symm⟩)
    · next rest same => exact .inr (.inr ⟨['/', '/'], rfl, rest, trivial, same.symm⟩)
    · cases closes

theorem mem_importTail {text : Text} :
    text ∈ optional aliasing * closing ↔ ImportLine.IsEnd text := by
  simp only [aliasing, Language.mem_mul, mem_optional, mem_fixed, mem_gap, mem_identifier,
    mem_closing]
  constructor
  · rintro ⟨another, rfl | named, rest, closes, rfl⟩
    · exact .inl closes
    · rcases named with
        ⟨-, ⟨-, ⟨gap, isGap, -, rfl, rfl⟩, between, isBetween, rfl⟩, name, valid, rfl⟩
      right
      have same : gap ++ "as".toList ++ between ++ name ++ rest =
          gap ++ (ImportLine.aliasKeyword ++ between ++ (name ++ rest)) := by
        simp [ImportLine.aliasKeyword]
      rw [same]
      exact ImportLine.isAlias_append isGap isBetween valid closes
  · rintro (closes | another)
    · exact ⟨[], .inl rfl, text, closes, rfl⟩
    · rcases ImportLine.exists_of_isAlias another with
        ⟨gap, between, name, rest, isGap, isBetween, valid, closes, rfl⟩
      refine ⟨gap ++ ImportLine.aliasKeyword ++ between ++ name, .inr ?_, rest, closes, by simp⟩
      exact ⟨_, ⟨_, ⟨gap, isGap, _, rfl, rfl⟩, between, isBetween, rfl⟩, name, valid, rfl⟩

theorem mem_typeTail {text : Text} : text ∈ typeTail ↔ TypeLine.isTail text = true := by
  have marks : one isBlank + fixed "<" + fixed "\x7b" + fixed "(" =
      one fun c => isBlank c || c == '<' || c == '\x7b' || c == '(' := by
    rw [fixed_eq_one (c := '<') rfl, fixed_eq_one (c := '\x7b') rfl, fixed_eq_one (c := '(') rfl,
      one_add_one, one_add_one, one_add_one]
  rw [typeTail, marks, mem_optional, Language.mem_mul]
  constructor
  · rintro (rfl | ⟨mark, ⟨c, marked, rfl⟩, rest, -, rfl⟩)
    · rfl
    · exact marked
  · intro isTail
    cases text with
    | nil => exact .inl rfl
    | cons c rest => exact .inr ⟨[c], ⟨c, isTail, rfl⟩, rest, trivial, rfl⟩

end Pattern

end ClassMove
