import ClassMove.Files.Change
import ClassMove.Text.Utf8

/-!
# Editing a file line by line

An edit looks at the text view of one line and says what becomes of it.  The
octets of the line are changed only where the view can be trusted: a splice
replaces the start of a line when its octets are those of the view, so that octets
behind it survive even if they encode nothing; a whole line is replaced only when
all of it encodes a text.

Whoever edits may remember something from line to line.

A file gets its new octets at once.  That they are first written to a file beside it, with
a name of its own that then takes the name of the edited file, is left out, and so is all
that may go wrong after the file was opened: that the other file cannot be created,
written or renamed.  One such failure could be told from paths alone.  The name of the
other file has 19 octets, so where the edited file has a shorter one, the path of the other
may be longer than a path may be; an edit that is no preview is then refused, but here it
is carried out.
-/

namespace ClassMove

/-- What becomes of a line. -/
inductive Edit where
  /-- The line stays. -/
  | keep
  /-- Other lines take its place. -/
  | replace (lines : List Text)
  /-- A text takes the place of the first octets. -/
  | splice (count : Nat) (head : Text)
deriving DecidableEq

namespace Edit

/-- Put `head` in place of all that precedes `tail`, the end of the line. -/
def before (line tail head : Text) : Edit :=
  .splice ((Utf8.encode line).length - (Utf8.encode tail).length) head

/-- The octets that an edit puts in place of a line, unless the line stays. -/
def applied? (octets : List UInt8) : Edit → Option (List UInt8)
  | .keep => none
  | .replace lines => if Utf8.isValid octets then some (Utf8.encode lines.flatten) else none
  | .splice count head =>
    if count ≤ octets.length ∧
        octets.take count = (Utf8.encode (Utf8.view octets)).take count then
      some (Utf8.encode head ++ octets.drop count)
    else none

end Edit

/-- Answers each line with an edit, and remembers something for the lines that follow. -/
abbrev Editor (Memory : Type) := Memory → Text → Edit × Memory

/-- A line after editing. -/
structure EditedLine where
  octets : List UInt8
  changed : Bool
deriving DecidableEq

/-- Carry out an edit on a line. -/
def EditedLine.ofEdit (octets : List UInt8) (edit : Edit) : EditedLine :=
  match edit.applied? octets with
  | some fresh => ⟨fresh, true⟩
  | none => ⟨octets, false⟩

/-- Show the lines to an editor one after another. -/
def editLines {Memory : Type} (editor : Editor Memory) :
    Memory → List (List UInt8) → List EditedLine
  | _, [] => []
  | memory, line :: rest =>
    let (edit, next) := editor memory (Utf8.view line)
    EditedLine.ofEdit line edit :: editLines editor next rest

/-- A file after editing, line by line. -/
structure Revision where
  lines : List EditedLine
deriving DecidableEq

namespace Revision

/-- The revision of a file with these octets. -/
def ofOctets {Memory : Type} (editor : Editor Memory) (memory : Memory)
    (octets : List UInt8) : Revision :=
  ⟨editLines editor memory (Utf8.lines octets)⟩

/-- The octets of the file after editing. -/
def octets (revision : Revision) : List UInt8 :=
  revision.lines.flatMap EditedLine.octets

/-- How many lines the file had. -/
def linesRead (revision : Revision) : Nat :=
  revision.lines.length

/-- How many of them were changed. -/
def linesChanged (revision : Revision) : Nat :=
  revision.lines.countP EditedLine.changed

end Revision

/-- Edit a file.  In a preview nothing is written. -/
def FileSystem.edit {Memory : Type} (files : FileSystem) (path : Path) (preview : Bool)
    (editor : Editor Memory) (memory : Memory) : Except Failure (Revision × FileSystem) :=
  match files.read path with
  | .error refusal => .error (refusal.toFailure ("read " ++ path.display))
  | .ok octets =>
    let revision := Revision.ofOctets editor memory octets
    .ok (revision, if preview then files else files.overwrite path revision.octets)

end ClassMove
