import ClassMove.Proofs.Source.Header

/-!
# Files with other declarations

The scanner stops at the first type line that it accepts; the editor of declarations
looks at every line and remembers which declarations it has met.  Both are shown to mean
the same two lines.  A file with a header is cut at its package line and its type line,
and the edited file is cut in the same places: all other lines are the old ones, octet
by octet, and each of the two differs from the old one only up to its name.
-/

namespace ClassMove

open Utf8

/-! ## Lines that an editor keeps -/

theorem editLines_of_keep {Memory : Type} {editor : Editor Memory} {memory : Memory}
    {front : List (List UInt8)}
    (keeps : ∀ line ∈ front, editor memory (view line) = (.keep, memory))
    (rest : List (List UInt8)) :
    (editLines editor memory (front ++ rest)).map EditedLine.octets =
      front ++ (editLines editor memory rest).map EditedLine.octets := by
  induction front with
  | nil => rfl
  | cons line front ih =>
    simp only [List.forall_mem_cons] at keeps
    rw [List.cons_append, editLines, keeps.1, List.map_cons, ih keeps.2]
    rfl

/-- A line is kept if no declaration that is still to come stands on it. -/
theorem declare_of_declared (name : ClassName) {pending : Pending} {text : Text}
    (package : pending.package = true → (Line.ofText text).isPackage = false)
    (type : pending.type = true → (Line.ofText text).isType = false) :
    declare name pending text = (.keep, pending) := by
  rcases Line.ofText_cases text with ⟨line, said, read, -, noType⟩ |
    ⟨line, -, -, noPackage, noType⟩ | ⟨line, said, read, noPackage, -⟩ | ⟨-, noPackage, -, noType⟩
  · have met : pending.package = false := by simpa [said, Line.isPackage] using package
    simp [declare, declareType, read, noType, met]
  · simp [declare, declareType, noPackage, noType]
  · have met : pending.type = false := by simpa [said, Line.isType] using type
    simp [declare, declareType, read, noPackage, met]
  · simp [declare, declareType, noPackage, noType]

/-! ## Files cut at their declarations -/

/-- The lines of a file, with two of them set apart. -/
structure FileCut where
  before : List (List UInt8)
  packageLine : List UInt8
  between : List (List UInt8)
  typeLine : List UInt8
  behind : List (List UInt8)

namespace FileCut

/-- The lines that were cut. -/
def lines (cut : FileCut) : List (List UInt8) :=
  cut.before ++ cut.packageLine :: (cut.between ++ cut.typeLine :: cut.behind)

/-- Is the file cut at the package line and the type line of its header? -/
structure Declares (cut : FileCut) (octets : List UInt8) (package : PackageLine)
    (type : TypeLine) : Prop where
  joined : Utf8.lines octets = cut.lines
  silent : ∀ line ∈ cut.before, Line.ofText (view line) = .other
  package : PackageLine.ofLine? (view cut.packageLine) = some package
  importing : ∀ line ∈ cut.between,
    Line.ofText (view line) = .other ∨ ∃ found, Line.ofText (view line) = .importing found
  type : TypeLine.ofLine? (view cut.typeLine) = some type

/-- A file with a header is cut at the lines that the header is read from. -/
theorem exists_declares {octets : List UInt8} {front : List Line} {package : PackageLine}
    {imports : List ImportLine} {type : TypeLine}
    (heads : Header.Heads (said octets) front package imports type) :
    ∃ cut : FileCut, cut.Declares octets package type := by
  rcases heads with ⟨⟨rest, whole⟩, reads⟩
  rw [List.append_assoc] at whole
  rcases List.filter_eq_cons_iff.1 reads with ⟨others, later, rfl, silent, -, imported⟩
  rw [List.append_assoc, List.cons_append] at whole
  rcases List.map_eq_append_iff.1 whole.symm with ⟨before, _, joined, rfl, fromPackage⟩
  rcases List.map_eq_cons_iff.1 fromPackage with ⟨packageLine, _, rfl, packaged, behindPackage⟩
  rcases List.map_eq_append_iff.1 behindPackage with ⟨between, _, rfl, rfl, fromType⟩
  rcases List.map_eq_cons_iff.1 fromType with ⟨typeLine, behind, rfl, typed, -⟩
  refine ⟨⟨before, packageLine, between, typeLine, behind⟩, joined, ?_,
    Line.ofText_eq_package_iff.1 packaged, ?_, Line.ofText_eq_type_iff.1 typed⟩
  · intro line member
    simpa using silent _ (List.mem_map_of_mem member)
  · intro line member
    by_cases other : Line.ofText (view line) = .other
    · exact .inl other
    · have listed : Line.ofText (view line) ∈ imports.map Line.importing := by
        rw [← imported]
        exact List.mem_filter.2 ⟨List.mem_map_of_mem member, by simpa using other⟩
      rcases List.mem_map.1 listed with ⟨found, -, same⟩
      exact .inr ⟨found, same.symm⟩

variable {cut : FileCut} {octets : List UInt8} {package : PackageLine} {type : TypeLine}

/-- The lines of the edited file are those of the old one, with other declarations. -/
theorem Declares.lines_declared (declares : cut.Declares octets package type) (new : ClassName) :
    Utf8.lines (declared new octets) =
      { cut with
        packageLine := (EditedLine.ofEdit cut.packageLine (.before (view cut.packageLine)
          package.tail (package.head new.package))).octets
        typeLine := (EditedLine.ofEdit cut.typeLine (.before (view cut.typeLine)
          type.tail (type.head new.simple))).octets }.lines := by
  rw [declared, lines_revision (declare_gentle new), declares.joined, FileCut.lines, FileCut.lines]
  -- in front of the package line nothing is declared
  rw [editLines_of_keep fun line member => declare_of_declared new
    (by simp [declares.silent line member, Line.isPackage])
    (by simp [declares.silent line member, Line.isType])]
  have first : declare new {} (view cut.packageLine) =
      (.before (view cut.packageLine) package.tail (package.head new.package),
        { package := false }) := by
    simp [declare, declares.package]
  rw [editLines, first, List.map_cons]
  -- up to the type line there are imports at most
  have importing : ∀ line ∈ cut.between,
      declare new { package := false } (view line) = (.keep, { package := false }) := by
    intro line member
    refine declare_of_declared new (by simp) fun _ => ?_
    rcases declares.importing line member with other | ⟨found, said⟩
    · rw [other]
      rfl
    · rw [said]
      rfl
  rw [editLines_of_keep importing]
  have second : declare new { package := false } (view cut.typeLine) =
      (.before (view cut.typeLine) type.tail (type.head new.simple), ⟨false, false⟩) := by
    simp [declare, declareType, package_eq_none_of_type declares.type, declares.type]
  rw [editLines, second, List.map_cons]
  -- and behind it nothing is still to come
  have settled : ∀ line ∈ cut.behind,
      declare new ⟨false, false⟩ (view line) = (.keep, ⟨false, false⟩) :=
    fun line _ => declare_of_declared new (by simp) (by simp)
  have kept := editLines_of_keep settled []
  rw [List.append_nil] at kept
  rw [kept]
  simp [editLines]

/-- The edited file is cut in the same places, its two declarations are read as the old ones with
other names, and they were given these without touching what stands behind the names. -/
theorem Declares.exists_renamed (declares : cut.Declares octets package type) (new : ClassName) :
    ∃ packageLine typeLine,
      { cut with packageLine, typeLine }.Declares (declared new octets)
        { package with name := new.package } { type with name := new.simple } ∧
      Renamed cut.packageLine packageLine package.name (package.head new.package) package.tail ∧
      Renamed cut.typeLine typeLine type.name (type.head new.simple) type.tail := by
  rcases PackageLine.severed declares.package with ⟨packageStart, packageSevered⟩
  rcases TypeLine.severed declares.type with ⟨typeStart, typeSevered⟩
  refine ⟨_, _, ⟨declares.lines_declared new, declares.silent, ?_, declares.importing, ?_⟩,
    renamed_ofEdit_before packageSevered _, renamed_ofEdit_before typeSevered _⟩
  · rw [view_ofEdit_before packageSevered]
    exact PackageLine.ofLine?_render declares.package new.package_valid
  · rw [view_ofEdit_before typeSevered]
    exact TypeLine.ofLine?_render declares.type (isIdentifier_of_isSimpleName new.simple_valid)

end FileCut

/-! ## Editing the declarations of a file -/

/-- Where a class is read from a file, editing the declarations changes the package line and the
type line that it was read from, and no other line.  Both keep all of their parts but the name and
the octets behind it, whatever these encode.  From the edited file the new class is read, with the
same imports. -/
theorem editDeclarations_renames {files : FileSystem} {path : Path} {octets : List UInt8}
    {identity : Identity} (read : files.read path = .ok octets)
    (derived : Identity.ofContents files path = .ok identity) (new : ClassName) :
    ∃ cut package type, FileCut.Declares cut octets package type ∧
      identity.name.package = package.name ∧ identity.name.simple = type.name ∧
      ∃ after edited packageLine typeLine,
        files.editDeclarations path new false = .ok (2, after) ∧ after.read path = .ok edited ∧
        { cut with packageLine, typeLine }.Declares edited
          { package with name := new.package } { type with name := new.simple } ∧
        Renamed cut.packageLine packageLine package.name (package.head new.package) package.tail ∧
        Renamed cut.typeLine typeLine type.name (type.head new.simple) type.tail ∧
        Identity.ofContents after path = .ok { identity with name := new } := by
  rw [Identity.ofContents_of_read read] at derived
  rcases Identity.ofOctets_eq_ok_iff_heads.1 derived with
    ⟨front, package, imports, type, heads, -, packaged, named, -, -, -⟩
  rcases Identity.ofOctets_eq_ok_iff.1 derived with ⟨found, placed, byContents⟩
  rcases FileCut.exists_declares heads with ⟨cut, declares⟩
  rcases declares.exists_renamed new with ⟨packageLine, typeLine, again, first, second⟩
  have written := FileSystem.read_writeAt read (declared new octets)
  refine ⟨cut, package, type, declares, packaged, named, _, _, packageLine, typeLine, ?_, written,
    again, first, second, ?_⟩
  · rw [FileSystem.editDeclarations_of_read read, linesChanged_declare_of_declaration found]
    rfl
  · rw [Identity.ofContents_of_read written]
    exact Identity.ofOctets_eq_ok_iff.2 ⟨declaration?_declared found new, placed, byContents⟩

/-- A file with a byte order mark, with octets behind both declarations that encode nothing, and
with a second type. -/
def markedOctets : List UInt8 :=
  encode "\uFEFF package  o; // ".toList ++ 0xff :: encode "\nimport p.P;\n".toList ++
    encode "\tpublic  final class O<T> // ".toList ++ [0xc3, 0x0a] ++ encode "class O\n".toList

def markedFiles : FileSystem :=
  (FileSystem.empty .root).writeAt (.ofString "/O.java") markedOctets

def markedIdentity : Identity :=
  ⟨.ofString "/O.java", ⟨"o".toList, "O".toList, by decide, by decide⟩,
    [⟨"p".toList, "P".toList, by decide, by decide⟩], .contents⟩

def markedName : ClassName :=
  ⟨"q.r".toList, "Q".toList, by decide, by decide⟩

theorem editDeclarations_renames_marked :
    Identity.ofContents markedFiles (.ofString "/O.java") = .ok markedIdentity ∧
      ∃ after, markedFiles.editDeclarations (.ofString "/O.java") markedName false =
          .ok (2, after) ∧
        Identity.ofContents after (.ofString "/O.java") =
          .ok { markedIdentity with name := markedName } := by
  have read : markedFiles.read (.ofString "/O.java") = .ok markedOctets := by decide +kernel
  have derived : Identity.ofContents markedFiles (.ofString "/O.java") = .ok markedIdentity := by
    decide +kernel
  rcases editDeclarations_renames read derived markedName with
    ⟨-, -, -, -, -, -, after, -, -, -, edited, -, -, -, -, same⟩
  exact ⟨derived, after, edited, same⟩

end ClassMove
