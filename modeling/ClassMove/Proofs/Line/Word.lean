import ClassMove.Line.Word
import ClassMove.Text.Utf8

/-!
# Cuts between words

A run of characters of one class ends where the next character is of another class.
Each step of reading a line is stated as an equivalence with the cut that it makes,
so that a line which was put together from its parts is read as those parts.
-/

namespace ClassMove

/-! ## Runs of characters -/

/-- Does no character of the class stand at the start of the text? -/
def Stops (p : Char → Bool) : Text → Prop
  | [] => True
  | c :: _ => p c = false

theorem stops_dropWhile (p : Char → Bool) (text : Text) : Stops p (text.dropWhile p) := by
  induction text with
  | nil => trivial
  | cons c rest ih =>
    rw [List.dropWhile_cons]
    split
    · exact ih
    · next other => simpa [Stops] using other

theorem Stops.mono {p q : Char → Bool} {text : Text} (stops : Stops q text)
    (within : ∀ c, p c = true → q c = true) : Stops p text := by
  cases text with
  | nil => trivial
  | cons c rest =>
    simp only [Stops] at stops ⊢
    cases inside : p c with
    | false => rfl
    | true => simp [within c inside] at stops

/-- Whether all characters of a text give one answer can be evaluated. -/
theorem forall_mem_of_all {p : Char → Bool} {answer : Bool} {text : Text}
    (checked : (text.all fun c => p c == answer) = true) : ∀ c ∈ text, p c = answer := by
  simpa using checked

theorem forall_mem_takeWhile (p : Char → Bool) (text : Text) :
    ∀ c ∈ text.takeWhile p, p c = true :=
  List.all_eq_true.1 List.all_takeWhile

theorem takeWhile_append_of_stops {p : Char → Bool} {run rest : Text}
    (inside : ∀ c ∈ run, p c = true) (stops : Stops p rest) :
    (run ++ rest).takeWhile p = run := by
  rw [List.takeWhile_append_of_pos inside]
  cases rest with
  | nil => simp
  | cons c rest => simp [show p c = false from stops]

theorem dropWhile_append_of_stops {p : Char → Bool} {run rest : Text}
    (inside : ∀ c ∈ run, p c = true) (stops : Stops p rest) :
    (run ++ rest).dropWhile p = rest := by
  rw [List.dropWhile_append_of_pos inside]
  cases rest with
  | nil => simp
  | cons c rest => simp [show p c = false from stops]

/-! ## Classes of characters -/

/-- The code points of white space. -/
def blankPoints : List Nat :=
  [0x09, 0x0A, 0x0B, 0x0C, 0x0D, 0x20, 0x85, 0xA0, 0x1680, 0x2000, 0x2001, 0x2002, 0x2003,
    0x2004, 0x2005, 0x2006, 0x2007, 0x2008, 0x2009, 0x200A, 0x2028, 0x2029, 0x202F, 0x205F,
    0x3000]

theorem toNat_mem_blankPoints {c : Char} (blank : isBlank c = true) :
    c.toNat ∈ blankPoints := by
  simp only [isBlank, Bool.or_eq_true, Bool.and_eq_true, decide_eq_true_eq, beq_iff_eq] at blank
  simp only [blankPoints, List.mem_cons, List.not_mem_nil, or_false]
  omega

/-- No word character is white space, so names end where white space begins. -/
theorem isBlank_of_isIdentifierRest {c : Char} (inside : isIdentifierRest c = true) :
    isBlank c = false := by
  cases blank : isBlank c with
  | false => rfl
  | true =>
    have outside : ∀ point ∈ blankPoints, isIdentifierRest (Char.ofNat point) = false := by
      decide +kernel
    have other := outside _ (toNat_mem_blankPoints blank)
    rw [Char.ofNat_toNat, inside] at other
    cases other

theorem toNat_lt_of_isAlphanum {c : Char} (alphanumeric : c.isAlphanum = true) :
    c.toNat < 0x80 := by
  delta Char.isAlphanum Char.isAlpha Char.isUpper Char.isLower Char.isDigit at alphanumeric
  simp only [Bool.or_eq_true, Bool.and_eq_true, decide_eq_true_eq, ge_iff_le,
    UInt32.le_iff_toNat_le] at alphanumeric
  simp only [Char.toNat_val, Char.reduceToNat] at alphanumeric
  omega

/-- The characters of segments go on an identifier. -/
theorem isIdentifierRest_of_isSegmentChar {c : Char} (segment : isSegmentChar c = true) :
    isIdentifierRest c = true := by
  have ascii : c.toNat < 0x80 := by
    simp only [isSegmentChar, Bool.or_eq_true, beq_iff_eq] at segment
    rcases segment with alphanumeric | rfl
    · exact toNat_lt_of_isAlphanum alphanumeric
    · decide
  simp only [isIdentifierRest, isWord, ascii, ↓reduceIte, isAsciiWord]
  simp only [isSegmentChar] at segment
  simp [segment]

theorem isIdentifierRest_of_isSimpleRest {c : Char} (simple : isSimpleRest c = true) :
    isIdentifierRest c = true := by
  simp only [isSimpleRest, Bool.or_eq_true, beq_iff_eq] at simple
  rcases simple with segment | rfl
  · exact isIdentifierRest_of_isSegmentChar (by simpa [isSegmentChar] using segment)
  · rfl

theorem isSimpleRest_of_isIdentifierStart {c : Char} (start : isIdentifierStart c = true) :
    isSimpleRest c = true := by
  simp only [isIdentifierStart, isSimpleRest, Char.isAlphanum, Bool.or_eq_true] at start ⊢
  rcases start with (letter | underscore) | dollar
  · exact .inl (.inl (.inl letter))
  · exact .inl (.inr underscore)
  · exact .inr dollar

/-! ## Identifiers -/

theorem isIdentifierRest_of_mem {c : Char} {name : Text} (valid : isIdentifier name = true)
    (member : c ∈ name) : isIdentifierRest c = true := by
  cases name with
  | nil => cases member
  | cons first rest =>
    simp only [isIdentifier, Bool.and_eq_true, List.all_eq_true] at valid
    rcases List.mem_cons.1 member with rfl | later
    · exact isIdentifierRest_of_isSimpleRest (isSimpleRest_of_isIdentifierStart valid.1)
    · exact valid.2 c later

theorem isIdentifier_ne_nil {name : Text} (valid : isIdentifier name = true) : name ≠ [] := by
  rintro rfl
  cases valid

/-- Simple names are identifiers. -/
theorem isIdentifier_of_isSimpleName {name : Text} (valid : isSimpleName name = true) :
    isIdentifier name = true := by
  cases name with
  | nil => cases valid
  | cons first rest =>
    simp only [isSimpleName, isIdentifier, Bool.and_eq_true, List.all_eq_true] at valid ⊢
    exact ⟨valid.1, fun c member => isIdentifierRest_of_isSimpleRest (valid.2 c member)⟩

theorem isDottedIdentifier_ne_nil {name : Text} (valid : isDottedIdentifier name = true) :
    name ≠ [] := by
  rintro rfl
  cases valid

/-! ## Keywords -/

/-- White space between two words. -/
structure IsGap (gap : Text) : Prop where
  nonempty : gap ≠ []
  blank : ∀ c ∈ gap, isBlank c = true

theorem isGap_space : IsGap [' '] :=
  ⟨by simp, forall_mem_of_all (by decide)⟩

theorem IsGap.stops {gap : Text} (isGap : IsGap gap) {p : Char → Bool}
    (solid : ∀ c, p c = true → isBlank c = false) (rest : Text) : Stops p (gap ++ rest) := by
  cases gap with
  | nil => exact absurd rfl isGap.nonempty
  | cons c gap =>
    show p c = false
    cases inside : p c with
    | false => rfl
    | true =>
      have blank := isGap.blank c (List.mem_cons_self ..)
      rw [solid c inside] at blank
      cases blank

theorem afterKeyword?_eq_some_iff {keyword text rest : Text} :
    afterKeyword? keyword text = some rest ↔
      Stops isBlank rest ∧ ∃ gap, IsGap gap ∧ text = keyword ++ gap ++ rest := by
  constructor
  · intro found
    simp only [afterKeyword?] at found
    split at found
    · next c others behind =>
      simp only [Option.ite_none_right_eq_some, Option.some.injEq] at found
      obtain ⟨blank, rfl⟩ := found
      refine ⟨stops_dropWhile isBlank others, c :: others.takeWhile isBlank, ⟨by simp, ?_⟩, ?_⟩
      · intro d member
        rcases List.mem_cons.1 member with rfl | later
        · exact blank
        · exact forall_mem_takeWhile isBlank others d later
      · rw [Text.after?_eq_some_iff.1 behind]
        simp
    · cases found
  · rintro ⟨stops, gap, isGap, rfl⟩
    cases gap with
    | nil => exact absurd rfl isGap.nonempty
    | cons c gap =>
      have inside : ∀ d ∈ gap, isBlank d = true :=
        fun d member => isGap.blank d (List.mem_cons_of_mem _ member)
      simp only [afterKeyword?, List.append_assoc, Text.after?_append, List.cons_append,
        isGap.blank c (List.mem_cons_self ..), ↓reduceIte]
      rw [dropWhile_append_of_stops inside stops]

theorem nextWord?_eq_some_iff {text word rest : Text} :
    nextWord? text = some (word, rest) ↔
      Stops isBlank rest ∧ (∀ c ∈ word, isBlank c = false) ∧
        ∃ gap, IsGap gap ∧ text = word ++ gap ++ rest := by
  constructor
  · intro found
    simp only [nextWord?] at found
    split at found
    · cases found
    · next c others behind =>
      simp only [Option.some.injEq, Prod.mk.injEq] at found
      obtain ⟨rfl, rfl⟩ := found
      have stop := stops_dropWhile (!isBlank ·) text
      rw [behind] at stop
      refine ⟨stops_dropWhile isBlank others, ?_, c :: others.takeWhile isBlank, ⟨by simp, ?_⟩, ?_⟩
      · intro d member
        simpa using forall_mem_takeWhile (!isBlank ·) text d member
      · intro d member
        rcases List.mem_cons.1 member with rfl | later
        · simpa [Stops] using stop
        · exact forall_mem_takeWhile isBlank others d later
      · conv => lhs; rw [← List.takeWhile_append_dropWhile (p := (!isBlank ·)) (l := text), behind]
        simp
  · rintro ⟨stops, solid, gap, isGap, rfl⟩
    cases gap with
    | nil => exact absurd rfl isGap.nonempty
    | cons c gap =>
      have blank := isGap.blank c (List.mem_cons_self ..)
      have inside : ∀ d ∈ gap, isBlank d = true :=
        fun d member => isGap.blank d (List.mem_cons_of_mem _ member)
      have run : ∀ d ∈ word, (!isBlank d) = true := by simpa using solid
      have stop : Stops (!isBlank ·) (c :: (gap ++ rest)) := by simpa [Stops] using blank
      simp only [nextWord?, List.append_assoc, List.cons_append]
      rw [dropWhile_append_of_stops run stop, takeWhile_append_of_stops run stop]
      simp only [dropWhile_append_of_stops inside stops]

/-! ## Ends of lines -/

/-- A line that may end does not go on with a name. -/
theorem stops_of_isClosing {p : Char → Bool} (solid : ∀ c, p c = true → isBlank c = false)
    (semicolon : p ';' = false) (slash : p '/' = false) {text : Text}
    (closing : isClosing text = true) : Stops p text := by
  cases text with
  | nil => trivial
  | cons c rest =>
    simp only [Stops]
    cases blank : isBlank c with
    | true =>
      cases inside : p c with
      | false => rfl
      | true => simp [solid c inside] at blank
    | false =>
      simp only [isClosing, List.dropWhile_cons, blank, Bool.false_eq_true, ↓reduceIte] at closing
      split at closing <;> simp_all

end ClassMove
