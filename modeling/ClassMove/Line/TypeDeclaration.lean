import ClassMove.Line.Word

/-!
# Type lines

A type line is an indentation, any number of modifiers, the kind of the type and
its name.  Behind the name the line ends, or goes on with white space, type
parameters, a body or a list of components.
-/

namespace ClassMove

/-- What may stand before the kind of a type. -/
inductive Modifier where
  | publicAccess
  | protectedAccess
  | privateAccess
  | abstractType
  | finalType
  | staticType
  | strictFloat
  | sealedType
  | nonSealedType
deriving DecidableEq

namespace Modifier

/-- The word of a modifier. -/
def word : Modifier → Text
  | .publicAccess => "public".toList
  | .protectedAccess => "protected".toList
  | .privateAccess => "private".toList
  | .abstractType => "abstract".toList
  | .finalType => "final".toList
  | .staticType => "static".toList
  | .strictFloat => "strictfp".toList
  | .sealedType => "sealed".toList
  | .nonSealedType => "non-sealed".toList

/-- All modifiers. -/
def all : List Modifier :=
  [.publicAccess, .protectedAccess, .privateAccess, .abstractType, .finalType, .staticType,
    .strictFloat, .sealedType, .nonSealedType]

/-- The modifier with this word. -/
def ofWord? (word : Text) : Option Modifier :=
  all.find? (·.word == word)

@[simp]
theorem ofWord?_word (modifier : Modifier) : ofWord? modifier.word = some modifier := by
  cases modifier <;> decide

end Modifier

/-- The kinds of types. -/
inductive TypeKind where
  | classType
  | interfaceType
  | enumType
  | recordType
  | annotationType
  | traitType
deriving DecidableEq

namespace TypeKind

/-- The word of a kind. -/
def word : TypeKind → Text
  | .classType => "class".toList
  | .interfaceType => "interface".toList
  | .enumType => "enum".toList
  | .recordType => "record".toList
  | .annotationType => "@interface".toList
  | .traitType => "trait".toList

/-- All kinds. -/
def all : List TypeKind :=
  [.classType, .interfaceType, .enumType, .recordType, .annotationType, .traitType]

/-- The kind with this word. -/
def ofWord? (word : Text) : Option TypeKind :=
  all.find? (·.word == word)

@[simp]
theorem ofWord?_word (kind : TypeKind) : ofWord? kind.word = some kind := by
  cases kind <;> decide

end TypeKind

/-- A line `public final class Name<T>`, taken apart. -/
structure TypeLine where
  indent : Text
  modifiers : List Modifier
  kind : TypeKind
  name : Text
  tail : Text
deriving DecidableEq

namespace TypeLine

/-- The modifiers at the start of a text, and what follows them. -/
def readModifiers (text : Text) : List Modifier × Text :=
  match found : nextWord? text with
  | none => ([], text)
  | some (word, rest) =>
    match Modifier.ofWord? word with
    | none => ([], text)
    | some modifier =>
      have _shorter := length_lt_of_nextWord? found
      let (modifiers, behind) := readModifiers rest
      (modifier :: modifiers, behind)
termination_by text.length

/-- May this follow the name of a type? -/
def isTail : Text → Bool
  | [] => true
  | c :: _ => isBlank c || c == '<' || c == '\x7b' || c == '('

/-- Read a line as a type line. -/
def ofLine? (line : Text) : Option TypeLine :=
  let (modifiers, rest) := readModifiers (line.dropWhile isIndent)
  match nextWord? rest with
  | none => none
  | some (word, behind) =>
    match TypeKind.ofWord? word with
    | none => none
    | some kind =>
      let name := behind.takeWhile isIdentifierRest
      let tail := behind.dropWhile isIdentifierRest
      if isIdentifier name && isTail tail then
        some ⟨line.takeWhile isIndent, modifiers, kind, name, tail⟩
      else none

/-- The line up to the name, with another name. -/
def head (line : TypeLine) (name : Text) : Text :=
  line.indent ++ line.modifiers.flatMap (·.word ++ [' ']) ++ line.kind.word ++ ' ' :: name

/-- The line with another name. -/
def render (line : TypeLine) (name : Text) : Text :=
  line.head name ++ line.tail

end TypeLine

end ClassMove
