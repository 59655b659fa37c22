import ClassMove.ClassName
import ClassMove.Text.Blank
import ClassMove.Text.Word

/-!
# Words of a line

Declarations are recognised one line at a time.  A line is read from left to
right; every step takes the longest run of characters of one class, so that there
is only one way to read a line.  White space separates keywords and is not kept.
-/

namespace ClassMove

/-! ## Identifiers -/

/-- Identifiers go on with word characters and dollar signs. -/
def isIdentifierRest (c : Char) : Bool :=
  isWord c || c == '$'

/-- Is the text an identifier? -/
def isIdentifier : Text → Bool
  | [] => false
  | c :: rest => isIdentifierStart c && rest.all isIdentifierRest

/-- Is the text a dotted list of identifiers? -/
def isDottedIdentifier (text : Text) : Bool :=
  (Text.split '.' text).all isIdentifier

/-! ## Keywords -/

/-- What follows `keyword` and the white space behind it, of which there has to be some. -/
def afterKeyword? (keyword text : Text) : Option Text :=
  match Text.after? keyword text with
  | some (c :: rest) => if isBlank c then some (rest.dropWhile isBlank) else none
  | _ => none

/-- The first word and what follows the white space behind it, of which there has to be some. -/
def nextWord? (text : Text) : Option (Text × Text) :=
  match text.dropWhile (!isBlank ·) with
  | [] => none
  | _ :: rest => some (text.takeWhile (!isBlank ·), rest.dropWhile isBlank)

theorem length_dropWhile_le (p : Char → Bool) (text : Text) :
    (text.dropWhile p).length ≤ text.length := by
  induction text with
  | nil => simp
  | cons c rest ih =>
    rw [List.dropWhile_cons]
    split
    · simp only [List.length_cons]; omega
    · simp

/-- A word takes something away. -/
theorem length_lt_of_nextWord? {text word rest : Text}
    (found : nextWord? text = some (word, rest)) : rest.length < text.length := by
  simp only [nextWord?] at found
  have shorter := length_dropWhile_le (!isBlank ·) text
  split at found
  · simp at found
  · next c others equal =>
    simp only [Option.some.injEq, Prod.mk.injEq] at found
    rw [equal, List.length_cons] at shorter
    rw [← found.2]
    have := length_dropWhile_le isBlank others
    omega

/-! ## Ends of lines -/

/-- May a declaration end here?  White space may follow, then a semicolon or a comment with
anything behind it. -/
def isClosing (text : Text) : Bool :=
  match text.dropWhile isBlank with
  | [] => true
  | ';' :: _ => true
  | '/' :: '/' :: _ => true
  | _ => false

end ClassMove
