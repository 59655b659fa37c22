import ClassMove.Proofs.Path.Spelling
import ClassMove.Proofs.Source.Word

/-!
# Headers are words

The scanner finds a header exactly if one heads the lines of the file.  Otherwise the
first line that deviates is faulted, with its number and the rule that a line of its
kind broke there, or, where none deviates, declarations are missing and no line is
faulted.  An identity is read from the contents of a file accordingly, and nothing
behind an accepted type line matters to it.
-/

namespace ClassMove

open Utf8

/-- The class that a line imports, if its target names one. -/
def ImportLine.imported? (line : ImportLine) : Option ClassName :=
  match line.importedClass with
  | .ok (name, _) => some name
  | .error _ => none

namespace Header

/-! ## The scanner behind a beginning -/

/-- A header with imports in front of its own. -/
def addImports (imports : List ImportLine) (header : Header) : Header :=
  imports.foldr addImport header

theorem addImports_eq (imports : List ImportLine) (header : Header) :
    addImports imports header =
      { header with imports := imports.filterMap ImportLine.imported? ++ header.imports } := by
  induction imports with
  | nil => rfl
  | cons line imports ih =>
    rw [addImports, List.foldr_cons, ← addImports, ih, addImport]
    cases found : line.importedClass with
    | ok pair => simp [ImportLine.imported?, found]
    | error failure => simp [ImportLine.imported?, found]

theorem scanFrom_of_silent {front : List Line} (silent : spoken front = []) (number : Nat)
    (rest : List Line) :
    scanFrom number (front ++ rest) = scanFrom (number + front.length) rest := by
  induction front generalizing number with
  | nil => rfl
  | cons line front ih =>
    cases line with
    | other =>
      rw [spoken_other] at silent
      rw [List.length_cons, Nat.add_comm front.length, ← Nat.add_assoc]
      exact ih silent (number + 1)
    | _ => simp at silent

theorem scanBody_of_imports {front : List Line} {imports : List ImportLine}
    (reads : spoken front = imports.map .importing) (package : Text) (number : Nat)
    (rest : List Line) :
    scanBody package number (front ++ rest) =
      (scanBody package (number + front.length) rest).map (addImports imports) := by
  induction front generalizing number imports with
  | nil =>
    cases List.map_eq_nil_iff.1 reads.symm
    rw [List.nil_append, List.length_nil, Nat.add_zero]
    cases scanBody package number rest with
    | ok header => rfl
    | error fault => rfl
  | cons line front ih =>
    rw [List.length_cons, Nat.add_comm front.length, ← Nat.add_assoc]
    cases line with
    | other =>
      rw [spoken_other] at reads
      exact ih reads (number + 1)
    | importing found =>
      rw [spoken_importing] at reads
      rcases List.map_eq_cons_iff.1 reads.symm with ⟨first, others, rfl, same, later⟩
      cases same
      rw [List.cons_append, scanBody, ih later.symm]
      cases scanBody package (number + 1 + front.length) rest with
      | ok header => rfl
      | error fault => rfl
    | package found => cases imports <;> simp at reads
    | type found => cases imports <;> simp at reads

/-- Lines that read a package and imports have the scanner go on with the others. -/
theorem scanFrom_of_imports {front : List Line} {package : PackageLine}
    {imports : List ImportLine} (reads : spoken front = .package package :: imports.map .importing)
    (number : Nat) (rest : List Line) :
    scanFrom number (front ++ rest) =
      (scanBody package.name (number + front.length) rest).map (addImports imports) := by
  induction front generalizing number with
  | nil => cases reads
  | cons line front ih =>
    rw [List.length_cons, Nat.add_comm front.length, ← Nat.add_assoc]
    cases line with
    | other =>
      rw [spoken_other] at reads
      exact ih reads (number + 1)
    | package found =>
      rw [spoken_package] at reads
      rcases List.cons.inj reads with ⟨same, later⟩
      cases same
      exact scanBody_of_imports later package.name (number + 1) rest
    | importing found => simp at reads
    | type found => simp at reads

/-! ## The scanner on all lines -/

theorem scan_of_heads {lines front : List Line} {package : PackageLine}
    {imports : List ImportLine} {type : TypeLine} (heads : Heads lines front package imports type) :
    scan lines = .ok ⟨package.name, imports.filterMap ImportLine.imported?, type.name⟩ := by
  rcases heads with ⟨⟨behind, rfl⟩, reads⟩
  rw [scan, List.append_assoc, scanFrom_of_imports reads]
  simp [scanBody, Except.map, addImports_eq]

theorem scan_of_deviatesAt {lines front : List Line} {line : Line}
    (deviation : DeviatesAt lines front line) :
    ∃ rule, line.rule? = some rule ∧ scan lines = .error ⟨rule, some (front.length + 1)⟩ := by
  rcases deviatesAt_iff.1 deviation with ⟨⟨behind, rfl⟩, kinds⟩
  rw [scan, List.append_assoc, Nat.add_comm]
  rcases kinds with ⟨second, first, imports, rfl, reads⟩ | ⟨found, rfl, silent⟩ |
    ⟨found, rfl, silent⟩
  · rw [scanFrom_of_imports reads]
    exact ⟨_, rfl, rfl⟩
  · rw [scanFrom_of_silent silent]
    exact ⟨_, rfl, rfl⟩
  · rw [scanFrom_of_silent silent]
    exact ⟨_, rfl, rfl⟩

theorem scan_of_isBegun {lines : List Line} (begun : IsBegun lines)
    (untyped : ∀ line ∈ lines, line.isType = false) :
    scan lines = .error ⟨.missingDeclarations, none⟩ := by
  rw [scan, ← List.append_nil lines]
  rcases spoken_of_isBegun begun untyped with silent | ⟨package, imports, reads⟩
  · rw [scanFrom_of_silent silent]
    rfl
  · rw [scanFrom_of_imports reads]
    rfl

/-- A header is found exactly if one heads the lines, and it holds the names of its lines. -/
theorem scan_eq_ok_iff {lines : List Line} {header : Header} :
    scan lines = .ok header ↔
      ∃ front package imports type, Heads lines front package imports type ∧
        header = ⟨package.name, imports.filterMap ImportLine.imported?, type.name⟩ := by
  constructor
  · intro scanned
    rcases heads_or_deviates_or_begun lines with
      ⟨front, package, imports, type, heads⟩ | ⟨front, line, deviation⟩ | ⟨begun, untyped⟩
    · rw [scan_of_heads heads] at scanned
      exact ⟨front, package, imports, type, heads, (Except.ok.inj scanned).symm⟩
    · rcases scan_of_deviatesAt deviation with ⟨rule, -, faulty⟩
      rw [faulty] at scanned
      cases scanned
    · rw [scan_of_isBegun begun untyped] at scanned
      cases scanned
  · rintro ⟨front, package, imports, type, heads, rfl⟩
    exact scan_of_heads heads

/-- A fault has a line exactly if one deviates: it has the number of the first that does, and the
rule of its kind. -/
theorem scan_eq_fault_iff {lines : List Line} {rule : Rule} {number : Nat} :
    scan lines = .error ⟨rule, some number⟩ ↔
      ∃ front line, DeviatesAt lines front line ∧ line.rule? = some rule ∧
        number = front.length + 1 := by
  constructor
  · intro scanned
    rcases heads_or_deviates_or_begun lines with
      ⟨front, package, imports, type, heads⟩ | ⟨front, line, deviation⟩ | ⟨begun, untyped⟩
    · rw [scan_of_heads heads] at scanned
      cases scanned
    · rcases scan_of_deviatesAt deviation with ⟨broken, known, faulty⟩
      cases faulty.symm.trans scanned
      exact ⟨front, line, deviation, known, rfl⟩
    · rw [scan_of_isBegun begun untyped] at scanned
      cases scanned
  · rintro ⟨front, line, deviation, known, rfl⟩
    rcases scan_of_deviatesAt deviation with ⟨broken, same, faulty⟩
    cases same.symm.trans known
    exact faulty

/-- A fault has no line exactly if no line deviates and no type is declared. -/
theorem scan_eq_missing_iff {lines : List Line} :
    scan lines = .error ⟨.missingDeclarations, none⟩ ↔
      (∀ front line, ¬ DeviatesAt lines front line) ∧ ∀ line ∈ lines, line.isType = false := by
  constructor
  · intro scanned
    have straight : ∀ front line, ¬ DeviatesAt lines front line := by
      intro front line deviation
      rcases scan_of_deviatesAt deviation with ⟨rule, -, faulty⟩
      cases faulty.symm.trans scanned
    refine ⟨straight, ?_⟩
    rcases heads_or_deviates_or_begun lines with
      ⟨front, package, imports, type, heads⟩ | ⟨front, line, deviation⟩ | ⟨-, untyped⟩
    · rw [scan_of_heads heads] at scanned
      cases scanned
    · exact absurd deviation (straight front line)
    · exact untyped
  · rintro ⟨straight, untyped⟩
    rcases heads_or_deviates_or_begun lines with
      ⟨front, package, imports, type, heads⟩ | ⟨front, line, deviation⟩ | ⟨begun, -⟩
    · cases untyped _ heads.type_mem
    · exact absurd deviation (straight front line)
    · exact scan_of_isBegun begun untyped

end Header

/-! ## Identities -/

theorem isPackageName_of_mem_said {octets : List UInt8} {package : PackageLine}
    (listed : .package package ∈ said octets) : isPackageName package.name = true := by
  rcases List.mem_map.1 listed with ⟨line, -, shown⟩
  rcases PackageLine.ofLine?_eq_some_iff.1 (Line.ofText_eq_package_iff.1 shown) with
    ⟨-, -, -, -, -, -, valid, -⟩
  exact valid

theorem Rule.text_injective {first second : Rule} (same : first.text = second.text) :
    first = second := by
  revert same
  cases first <;> cases second <;> decide

namespace Identity

open Header

variable {shown : String} {location : Location} {octets : List UInt8}

theorem ofOctets_eq_ok_iff_heads {identity : Identity} :
    ofOctets shown location octets = .ok identity ↔
      ∃ front package imports type, Heads (said octets) front package imports type ∧
        isSimpleName type.name = true ∧ identity.name.package = package.name ∧
        identity.name.simple = type.name ∧
        identity.imports = imports.filterMap ImportLine.imported? ∧
        identity.location = location ∧ identity.derivation = .contents := by
  have scanned : Header.ofOctets octets = scan (said octets) := rfl
  rw [ofOctets_eq_ok_iff, declaration?_eq_some_iff, scanned, scan_eq_ok_iff]
  constructor
  · rintro ⟨⟨front, package, imports, type, heads, same⟩, placed, derived⟩
    rcases Header.mk.inj same with ⟨packaged, imported, named⟩
    have valid : isSimpleName type.name = true := by
      rw [← named]
      exact identity.name.simple_valid
    exact ⟨front, package, imports, type, heads, valid, packaged, named, imported, placed, derived⟩
  · rintro ⟨front, package, imports, type, heads, -, packaged, named, imported, placed, derived⟩
    exact ⟨⟨front, package, imports, type, heads, by rw [packaged, named, imported]⟩, placed,
      derived⟩

theorem ofOctets_of_heads_invalid {front : List Line} {package : PackageLine}
    {imports : List ImportLine} {type : TypeLine}
    (heads : Heads (said octets) front package imports type)
    (invalid : isSimpleName type.name = false) :
    ofOctets shown location octets = .error (.of (.invalidName type.name.asString none)) := by
  have scanned : Header.ofOctets octets = _ := scan_of_heads heads
  rw [ofOctets, scanned]
  simp [ClassName.ofParts, isPackageName_of_mem_said heads.package_mem, invalid, bind, Except.bind]

/-- Faults of the scanner are reported as such, and nothing else is. -/
theorem ofOctets_eq_malformed_iff {rule : Rule} {line? : Option Nat} :
    ofOctets shown location octets = .error (.of (.malformed shown rule.text line?)) ↔
      scan (said octets) = .error ⟨rule, line?⟩ := by
  have scanned : Header.ofOctets octets = scan (said octets) := rfl
  rw [ofOctets, scanned]
  cases scan (said octets) with
  | error fault =>
    rcases fault with ⟨broken, found?⟩
    simp only [Malformation.toFailure, Failure.of, Except.error.injEq, Failure.mk.injEq,
      Cause.malformed.injEq, true_and, and_true, Malformation.mk.injEq]
    constructor
    · rintro ⟨same, rfl⟩
      exact ⟨Rule.text_injective same, rfl⟩
    · rintro ⟨rfl, rfl⟩
      exact ⟨rfl, rfl⟩
  | ok header =>
    -- a header fails only by its names
    by_cases packaged : isPackageName header.package = true
    · by_cases named : isSimpleName header.typeName = true
      · simp [ClassName.ofParts, packaged, named, bind, Except.bind]
      · simp [ClassName.ofParts, packaged, named, bind, Except.bind, Failure.of]
    · simp [ClassName.ofParts, packaged, bind, Except.bind, Failure.of]

theorem ofContents_of_read {files : FileSystem} {path : Path}
    (read : files.read path = .ok octets) :
    ofContents files path = ofOctets path.display (files.locationOf path) octets := by
  rw [ofContents, read]

/-- Lines up to an accepted type line decide what is read of octets. -/
theorem ofOctets_of_take {fresh : List UInt8} {front : List Line} {package : PackageLine}
    {imports : List ImportLine} {type : TypeLine}
    (heads : Heads (said octets) front package imports type)
    (same : (lines fresh).take (front.length + 1) = (lines octets).take (front.length + 1)) :
    ofOctets shown location fresh = ofOctets shown location octets := by
  have kept : Heads (said fresh) front package imports type := by
    apply heads.of_take
    rw [said, said, ← List.map_take, ← List.map_take, same]
  have scanned : Header.ofOctets fresh = Header.ofOctets octets :=
    (scan_of_heads kept).trans (scan_of_heads heads).symm
  rw [ofOctets, ofOctets, scanned]

end Identity

open Header

/-- Is the identity that is read from a file the one that the word of its lines tells? -/
structure ReadByWord (files : FileSystem) (path : Path) (octets : List UInt8) : Prop where
  /-- A class is read exactly if a header heads the lines and its type has a simple name, and it
  is the class that the header declares, with the classes that its import lines name. -/
  accepted : ∀ identity, Identity.ofContents files path = .ok identity ↔
    ∃ front package imports type, Heads (said octets) front package imports type ∧
      isSimpleName type.name = true ∧ identity.name.package = package.name ∧
      identity.name.simple = type.name ∧
      identity.imports = imports.filterMap ImportLine.imported? ∧
      identity.location = files.locationOf path ∧ identity.derivation = .contents
  /-- Where the type has no simple name, it is the name that is refused. -/
  misnamed : ∀ front package imports type, Heads (said octets) front package imports type →
    isSimpleName type.name = false →
      Identity.ofContents files path = .error (.of (.invalidName type.name.asString none))
  /-- A line is faulted exactly if it is the first that deviates, by the rule of its kind. -/
  deviating : ∀ rule number,
    Identity.ofContents files path =
        .error (.of (.malformed path.display rule.text (some number))) ↔
      ∃ front line, DeviatesAt (said octets) front line ∧ line.rule? = some rule ∧
        number = front.length + 1
  /-- Declarations are missed exactly if no line deviates and none declares a type. -/
  unfinished :
    Identity.ofContents files path =
        .error (.of (.malformed path.display Rule.missingDeclarations.text none)) ↔
      (∀ front line, ¬ DeviatesAt (said octets) front line) ∧
        ∀ line ∈ said octets, line.isType = false
  /-- Behind an accepted type line the file may hold anything. -/
  settled : ∀ front package imports type, Heads (said octets) front package imports type →
    ∀ (later : FileSystem) fresh, later.current = files.current → later.read path = .ok fresh →
      (lines fresh).take (front.length + 1) = (lines octets).take (front.length + 1) →
        Identity.ofContents later path = Identity.ofContents files path

/-- What is read of a file is told by the word of its lines.  Lines are classed by the three
readers, in whatever order these are tried; a line deviates if it declares the package a second
time, or imports something or declares a type before the package. -/
theorem contents_read_by_word :
    (∀ text, (∀ line, Line.ofText text = .package line ↔ PackageLine.ofLine? text = some line) ∧
      (∀ line, Line.ofText text = .importing line ↔ ImportLine.ofLine? text = some line) ∧
      ∀ line, Line.ofText text = .type line ↔ TypeLine.ofLine? text = some line) ∧
    (∀ lines front line, DeviatesAt lines front line ↔ front ++ [line] <+: lines ∧
      ((∃ second first, ∃ imports : List ImportLine, line = .package second ∧
          spoken front = .package first :: imports.map .importing) ∨
        (∃ found, line = .importing found ∧ spoken front = []) ∨
        ∃ found, line = .type found ∧ spoken front = [])) ∧
    ∀ (files : FileSystem) path octets, files.read path = .ok octets →
      ReadByWord files path octets := by
  refine ⟨?_, fun lines front line => deviatesAt_iff, ?_⟩
  · intro text
    exact ⟨fun line => Line.ofText_eq_package_iff, fun line => Line.ofText_eq_importing_iff,
      fun line => Line.ofText_eq_type_iff⟩
  · intro files path octets read
    constructor
    · intro identity
      rw [Identity.ofContents_of_read read, Identity.ofOctets_eq_ok_iff_heads]
    · intro front package imports type heads invalid
      rw [Identity.ofContents_of_read read, Identity.ofOctets_of_heads_invalid heads invalid]
    · intro rule number
      rw [Identity.ofContents_of_read read, Identity.ofOctets_eq_malformed_iff, scan_eq_fault_iff]
    · rw [Identity.ofContents_of_read read, Identity.ofOctets_eq_malformed_iff,
        scan_eq_missing_iff]
    · intro front package imports type heads later fresh current readLater same
      have place : later.locationOf path = files.locationOf path := by
        rw [FileSystem.locationOf, FileSystem.locationOf, current]
      rw [Identity.ofContents_of_read read, Identity.ofContents_of_read readLater, place,
        Identity.ofOctets_of_take heads same]

/-- A file with a header, an import that names no class and a package line behind its type, and
one that declares its package twice. -/
def wordedFiles : FileSystem :=
  .ofFiles [("/w/K.java", "// k\npackage k;\nimport m.M;\nimport m.list;\nclass K\npackage k;\n"),
    ("/w/L.java", "package k;\n\npackage k;\nclass L\n")]

def wordedClass : ClassName :=
  ⟨"k".toList, "K".toList, by decide, by decide⟩

def wordedImport : ClassName :=
  ⟨"m".toList, "M".toList, by decide, by decide⟩

theorem contents_read_by_word_sample :
    Identity.ofContents wordedFiles (.ofString "/w/K.java") =
        .ok ⟨.ofString "/w/K.java", wordedClass, [wordedImport], .contents⟩ ∧
      Identity.ofContents wordedFiles (.ofString "/w/L.java") =
        .error (.of (.malformed "/w/L.java" "package declaration" (some 3))) := by
  have header : ∃ octets, wordedFiles.read (.ofString "/w/K.java") = .ok octets ∧
      Heads (said octets) [.other, .package ⟨[], "k".toList, ";\n".toList⟩,
        .importing ⟨[], false, "m.M".toList, ";\n".toList⟩,
        .importing ⟨[], false, "m.list".toList, ";\n".toList⟩] ⟨[], "k".toList, ";\n".toList⟩
        [⟨[], false, "m.M".toList, ";\n".toList⟩, ⟨[], false, "m.list".toList, ";\n".toList⟩]
        ⟨[], [], .classType, "K".toList, "\n".toList⟩ :=
    ⟨_, rfl, by decide +kernel, by decide +kernel⟩
  have fault : ∃ octets, wordedFiles.read (.ofString "/w/L.java") = .ok octets ∧
      DeviatesAt (said octets) [.package ⟨[], "k".toList, ";\n".toList⟩, .other]
        (.package ⟨[], "k".toList, ";\n".toList⟩) :=
    ⟨_, rfl, deviatesAt_iff.2 ⟨by decide +kernel, .inl ⟨_, _, [], rfl, rfl⟩⟩⟩
  rcases header with ⟨octets, read, heads⟩
  rcases fault with ⟨faulty, readFaulty, deviation⟩
  constructor
  · exact ((contents_read_by_word.2.2 _ _ _ read).accepted _).2
      ⟨_, _, _, _, heads, by decide +kernel, rfl, rfl, by decide +kernel, by decide +kernel, rfl⟩
  · have refused := ((contents_read_by_word.2.2 _ _ _ readFaulty).deviating .packageDeclaration 3).2
      ⟨_, _, deviation, rfl, rfl⟩
    rwa [Path.display_ofString] at refused

end ClassMove
