import ClassMove.Line.Basic
import ClassMove.Text.Utf8

/-!
# Headers of source files

The header of a source file is what it says up to its first type: one package
line, then import lines, then a type line, with other lines anywhere between.
`Header.scan` reads the lines in order and stops at the type, so nothing behind it
matters.  A line that comes out of order is a fault at that line.
-/

namespace ClassMove

/-- Which rule on the order of lines is broken. -/
inductive Rule where
  | packageDeclaration
  | importStatement
  | classDeclaration
  | missingDeclarations
deriving DecidableEq

namespace Rule

/-- The wording of a rule. -/
def text : Rule → String
  | .packageDeclaration => "package declaration"
  | .importStatement => "import statement"
  | .classDeclaration => "class declaration"
  | .missingDeclarations => "missing package or class declaration"

/-- All rules. -/
def all : List Rule :=
  [.packageDeclaration, .importStatement, .classDeclaration, .missingDeclarations]

end Rule

/-- A broken rule, with the number of the line where that shows. -/
structure Malformation where
  rule : Rule
  line? : Option Nat
deriving DecidableEq

/-- The failure of reading the file shown as `path`. -/
def Malformation.toFailure (fault : Malformation) (path : String) : Failure :=
  .of (.malformed path fault.rule.text fault.line?)

/-- What a source file says up to its first type. -/
structure Header where
  package : Text
  imports : List ClassName
  typeName : Text
deriving DecidableEq

namespace Header

/-- A header with one more import in front.  An import that names no class is passed over. -/
def addImport (line : ImportLine) (header : Header) : Header :=
  match line.importedClass with
  | .ok (name, _) => { header with imports := name :: header.imports }
  | .error _ => header

/-- Read the lines behind the package line.  The first of them has the given number. -/
def scanBody (package : Text) (number : Nat) : List Line → Except Malformation Header
  | [] => .error ⟨.missingDeclarations, none⟩
  | .other :: rest => scanBody package (number + 1) rest
  | .importing line :: rest => (scanBody package (number + 1) rest).map (addImport line)
  | .type line :: _ => .ok ⟨package, [], line.name⟩
  | .package _ :: _ => .error ⟨.packageDeclaration, some number⟩

/-- Read the lines up to the package line, and then the others.  The first of them has the given
number. -/
def scanFrom (number : Nat) : List Line → Except Malformation Header
  | [] => .error ⟨.missingDeclarations, none⟩
  | .other :: rest => scanFrom (number + 1) rest
  | .package line :: rest => scanBody line.name (number + 1) rest
  | .importing _ :: _ => .error ⟨.importStatement, some number⟩
  | .type _ :: _ => .error ⟨.classDeclaration, some number⟩

/-- Read the lines of a file. -/
def scan (lines : List Line) : Except Malformation Header :=
  scanFrom 1 lines

/-- The header of a file with these octets. -/
def ofOctets (octets : List UInt8) : Except Malformation Header :=
  scan ((Utf8.lines octets).map fun line => Line.ofText (Utf8.view line))

end Header

end ClassMove
