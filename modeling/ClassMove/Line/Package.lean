import ClassMove.Line.Word

/-!
# Package lines

A package line is an indentation, which may start with a byte order mark, the word
`package`, a package name and an end.  `PackageLine.render` prints the line with
another name; the white space behind the keyword becomes one space.
-/

namespace ClassMove

/-- A line `package a.b;`, taken apart. -/
structure PackageLine where
  indent : Text
  name : Text
  tail : Text
deriving DecidableEq

namespace PackageLine

/-- The keyword of the line. -/
def keyword : Text := "package".toList

/-- The mark that a file may start with. -/
def byteOrderMark : Char := '\uFEFF'

/-- Package names are runs of segment characters and dots. -/
def isNameChar (c : Char) : Bool :=
  isSegmentChar c || c == '.'

/-- The byte order mark of a line, if it has one, and the rest. -/
def cutMark : Text → Text × Text
  | [] => ([], [])
  | c :: rest => if c = byteOrderMark then ([c], rest) else ([], c :: rest)

/-- Read a line as a package line. -/
def ofLine? (line : Text) : Option PackageLine :=
  let (mark, body) := cutMark line
  match afterKeyword? keyword (body.dropWhile isIndent) with
  | none => none
  | some rest =>
    let name := rest.takeWhile isNameChar
    let tail := rest.dropWhile isNameChar
    if isPackageName name && isClosing tail then
      some ⟨mark ++ body.takeWhile isIndent, name, tail⟩
    else none

/-- The line up to the name, with another name. -/
def head (line : PackageLine) (name : Text) : Text :=
  line.indent ++ keyword ++ ' ' :: name

/-- The line with another name. -/
def render (line : PackageLine) (name : Text) : Text :=
  line.head name ++ line.tail

end PackageLine

end ClassMove
