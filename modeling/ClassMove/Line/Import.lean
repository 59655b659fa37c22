import ClassMove.Line.Word

/-!
# Import lines

An import line is an indentation, the word `import`, perhaps the word `static`, a
dotted target, perhaps `as` and another name, and an end.  The target is the class
that is imported with what is taken from it; a static import always takes a member,
so its last segment does not count when the class is looked for.

A line such as `import static;` imports something called `static`: the word is a
modifier only when a line can be read with a target behind it.
-/

namespace ClassMove

/-- A line `import static a.b.C.member;`, taken apart. -/
structure ImportLine where
  indent : Text
  isStatic : Bool
  target : Text
  tail : Text
deriving DecidableEq

namespace ImportLine

/-- The keyword of the line. -/
def keyword : Text := "import".toList

/-- The modifier of an import that takes a member. -/
def staticKeyword : Text := "static".toList

/-- The word before another name for what is imported. -/
def aliasKeyword : Text := "as".toList

/-- Targets are runs of identifier characters and dots. -/
def isTargetChar (c : Char) : Bool :=
  isIdentifierRest c || c == '.'

/-- May `as` and a name follow, and the line end then? -/
def isAlias (text : Text) : Bool :=
  match text with
  | [] => false
  | c :: rest =>
    isBlank c &&
      match afterKeyword? aliasKeyword (rest.dropWhile isBlank) with
      | none => false
      | some behind =>
        isIdentifier (behind.takeWhile isIdentifierRest) &&
          isClosing (behind.dropWhile isIdentifierRest)

/-- The target at the start of a text and what follows it, if the line can end so. -/
def target? (text : Text) : Option (Text × Text) :=
  let target := text.takeWhile isTargetChar
  let tail := text.dropWhile isTargetChar
  if isDottedIdentifier target && (isClosing tail || isAlias tail) then some (target, tail)
  else none

/-- Read a line as an import line. -/
def ofLine? (line : Text) : Option ImportLine :=
  let indent := line.takeWhile isIndent
  match afterKeyword? keyword (line.dropWhile isIndent) with
  | none => none
  | some rest =>
    match (afterKeyword? staticKeyword rest).bind target? with
    | some (target, tail) => some ⟨indent, true, target, tail⟩
    | none => (target? rest).map fun (target, tail) => ⟨indent, false, target, tail⟩

/-- The words between the keyword and the target, each with a space behind it. -/
def modifiers (line : ImportLine) : Text :=
  if line.isStatic then staticKeyword ++ [' '] else []

/-- The line up to the target, with another target. -/
def head (line : ImportLine) (target : Text) : Text :=
  line.indent ++ keyword ++ ' ' :: line.modifiers ++ target

/-- The line with another target. -/
def render (line : ImportLine) (target : Text) : Text :=
  line.head target ++ line.tail

/-- The target without the member that a static import takes, and that member with its dot. -/
def owner (line : ImportLine) : Text × Text :=
  if line.isStatic then
    match Text.cutLast? '.' line.target with
    | some (before, member) => (before, '.' :: member)
    | none => (line.target, [])
  else (line.target, [])

/-- The class that is imported, and the rest of the target behind it. -/
def importedClass (line : ImportLine) : Except Failure (ClassName × Text) := do
  let (owner, member) := line.owner
  let (name, rest) ← ClassName.splitMember owner
  .ok (name, rest ++ member)

/-- Does the line import the class, and if so, what of it? -/
def suffixOf? (line : ImportLine) (name : ClassName) : Option Text :=
  match line.importedClass with
  | .ok (imported, suffix) => if imported = name then some suffix else none
  | .error _ => none

end ImportLine

end ClassMove
