import ClassMove.Failure
import ClassMove.Path.Basic

/-!
# Class names

A class has a package, which is a dotted list of segments, and a simple name.
Both are plain ASCII.  A dotted text is taken apart at its last segment that
starts with a capital: what comes before is the package, what comes after belongs
to a member or a nested class.
-/

namespace ClassMove

/-! ## Grammar -/

/-- Segments of package names are made of ASCII letters, digits and underscores. -/
def isSegmentChar (c : Char) : Bool :=
  c.isAlphanum || c == '_'

/-- Is the text one segment of a package name? -/
def isSegment (text : Text) : Bool :=
  text != [] && text.all isSegmentChar

/-- Is the text a package name? -/
def isPackageName (text : Text) : Bool :=
  (Text.split '.' text).all isSegment

/-- Identifiers start with an ASCII letter, an underscore or a dollar sign. -/
def isIdentifierStart (c : Char) : Bool :=
  c.isAlpha || c == '_' || c == '$'

/-- Simple names go on with ASCII letters, digits, underscores and dollar signs. -/
def isSimpleRest (c : Char) : Bool :=
  c.isAlphanum || c == '_' || c == '$'

/-- Is the text a simple class name? -/
def isSimpleName : Text → Bool
  | [] => false
  | c :: rest => isIdentifierStart c && rest.all isSimpleRest

/-! ## Names of classes -/

/-- A class name with its package. -/
structure ClassName where
  package : Text
  simple : Text
  package_valid : isPackageName package = true
  simple_valid : isSimpleName simple = true
deriving DecidableEq

namespace ClassName

/-- The class with this package and simple name.  A wrong package is reported first. -/
def ofParts (package simple : Text) : Except Failure ClassName :=
  if packageValid : isPackageName package = true then
    if simpleValid : isSimpleName simple = true then
      .ok ⟨package, simple, packageValid, simpleValid⟩
    else .error (.of (.invalidName simple.asString none))
  else .error (.of (.invalidPackage package.asString none))

/-- The package and the simple name with a dot between them. -/
def qualified (name : ClassName) : Text :=
  name.package ++ '.' :: name.simple

/-- The qualified name as a string, for messages. -/
def display (name : ClassName) : String :=
  name.qualified.asString

/-- The segments before the last one that starts with a capital, that one, and those after it. -/
def pickClass : List Text → Option (List Text × Text × List Text)
  | [] => none
  | segment :: rest =>
    match pickClass rest with
    | some (before, simple, after) => some (segment :: before, simple, after)
    | none => if segment.startsUpper then some ([], segment, rest) else none

/-- Take a dotted text apart into a class and what follows it, dots included. -/
def splitMember (dotted : Text) : Except Failure (ClassName × Text) :=
  match pickClass (Text.split '.' dotted) with
  | none => .error (.of (.invalidName dotted.asString none))
  | some (before, simple, after) => do
    let name ← ofParts (Text.join '.' before) simple
    .ok (name, after.flatMap ('.' :: ·))

/-- The class that a dotted text names. -/
def ofDotted (dotted : Text) : Except Failure ClassName :=
  (splitMember dotted).map Prod.fst

/-- Where the class belongs, relative to the base of its package tree: a directory for each segment
of the package, and in the last one a file with the given extension. -/
def relativePath (name : ClassName) (extension : Text) : Path :=
  .ofText (Text.join '/' (Text.split '.' name.package ++ [name.simple ++ '.' :: extension]))

end ClassName

end ClassMove
