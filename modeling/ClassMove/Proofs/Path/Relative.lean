import ClassMove.Identity.Basic
import ClassMove.Proofs.ClassName
import ClassMove.Proofs.Path.Location
import ClassMove.Proofs.Path.Spelling

/-!
# Where a class belongs

A class belongs at one list of names below the base: a name for each segment of its
package, and one for its file.  The class that belongs there is the class itself.
The other way round, a file may lie where its class does not belong: a directory
whose name has a dot in it stands for two segments, which belong in two directories.
-/

namespace ClassMove

namespace ClassName

/-- The texts between the slashes of the relative path of a class. -/
def relativeTexts (name : ClassName) (dialect : Dialect) : List Text :=
  Text.split '.' name.package ++ [name.simple ++ '.' :: dialect.extension]

theorem slash_notMem_simple (name : ClassName) : '/' ∉ name.simple :=
  Text.notMem_of_forall
    (fun _ => isIdentifierRest_of_mem (isIdentifier_of_isSimpleName name.simple_valid)) (by decide)

theorem extension_free (dialect : Dialect) :
    '.' ∉ dialect.extension ∧ '/' ∉ dialect.extension := by
  cases dialect <;> decide

theorem simple_ne_nil (name : ClassName) : name.simple ≠ [] :=
  isIdentifier_ne_nil (isIdentifier_of_isSimpleName name.simple_valid)

/-- A simple name and anything behind a dot that has no slash is a file name. -/
theorem isFileName_simple_append (name : ClassName) {extension : Text} (free : '/' ∉ extension) :
    isFileName (Utf8.encode (name.simple ++ '.' :: extension)) = true := by
  have nonempty := name.simple_ne_nil
  have noSlash := name.slash_notMem_simple
  have noDot := name.dot_notMem_simple
  cases simple : name.simple with
  | nil => exact absurd simple nonempty
  | cons c rest =>
    rw [simple] at noSlash noDot
    simp only [List.mem_cons, not_or] at noSlash noDot
    have first : c ≠ '.' := fun same => noDot.1 same.symm
    rw [isFileName_encode_iff]
    simp [first, noSlash, free]

theorem isFileName_of_isSegment {segment : Text} (valid : isSegment segment = true) :
    isFileName (Utf8.encode segment) = true := by
  simp only [isSegment, Bool.and_eq_true, bne_iff_ne, ne_eq, List.all_eq_true] at valid
  obtain ⟨nonempty, chars⟩ := valid
  have noDot : '.' ∉ segment := fun member => absurd (chars _ member) (by decide)
  have noSlash : '/' ∉ segment := fun member => absurd (chars _ member) (by decide)
  refine isFileName_encode_iff.2 ⟨nonempty, ?_, ?_, noSlash⟩
  · rintro rfl; simp at noDot
  · rintro rfl; simp at noDot

theorem isFileName_of_mem_package (name : ClassName) {segment : Text}
    (member : segment ∈ Text.split '.' name.package) :
    isFileName (Utf8.encode segment) = true := by
  have valid := name.package_valid
  simp only [isPackageName, List.all_eq_true] at valid
  exact isFileName_of_isSegment (valid segment member)

theorem isFileName_of_mem_package_append (name : ClassName) {extension text : Text}
    (free : '/' ∉ extension)
    (member : text ∈ Text.split '.' name.package ++ [name.simple ++ '.' :: extension]) :
    isFileName (Utf8.encode text) = true := by
  rcases List.mem_append.1 member with segment | last
  · exact name.isFileName_of_mem_package segment
  · cases List.mem_singleton.1 last
    exact name.isFileName_simple_append free

theorem isFileName_of_mem_relativeTexts {name : ClassName} {dialect : Dialect} {text : Text}
    (member : text ∈ name.relativeTexts dialect) : isFileName (Utf8.encode text) = true :=
  name.isFileName_of_mem_package_append (extension_free dialect).2 member

/-- The names that lead from the base to the file of a class. -/
def relativeNames (name : ClassName) (dialect : Dialect) : List FileName :=
  (name.relativeTexts dialect).pmap (fun text valid => ⟨Utf8.encode text, valid⟩)
    fun _ => isFileName_of_mem_relativeTexts

theorem map_text_relativeNames (name : ClassName) (dialect : Dialect) :
    (name.relativeNames dialect).map FileName.text = name.relativeTexts dialect := by
  simp [relativeNames, List.map_pmap, FileName.text, Utf8.view_encode]

theorem isText_of_mem_relativeNames {name : ClassName} {dialect : Dialect} {fileName : FileName}
    (member : fileName ∈ name.relativeNames dialect) : fileName.IsText := by
  rcases List.mem_pmap.1 member with ⟨text, -, rfl⟩
  exact ⟨text, rfl⟩

theorem relativeNames_ne_nil (name : ClassName) (dialect : Dialect) :
    name.relativeNames dialect ≠ [] := by
  simp [relativeNames, relativeTexts]

theorem exists_relativeNames (name : ClassName) (dialect : Dialect) :
    ∃ names fileName, name.relativeNames dialect = names ++ [fileName] ∧
      names.map FileName.text = Text.split '.' name.package ∧
      fileName.octets = Utf8.encode (name.simple ++ '.' :: dialect.extension) := by
  rcases List.map_eq_append_iff.1 (map_text_relativeNames name dialect) with
    ⟨names, last, same, texts, single⟩
  rcases List.map_eq_singleton_iff.1 single with ⟨fileName, rfl, text⟩
  have member : fileName ∈ name.relativeNames dialect := by simp [same]
  exact ⟨names, fileName, same, texts, text ▸ (isText_of_mem_relativeNames member).octets_eq⟩

theorem relativePath_eq (name : ClassName) (dialect : Dialect) :
    name.relativePath dialect.extension = ⟨(name.relativeNames dialect).map .down⟩ := by
  have nonempty : (name.relativeNames dialect).map Piece.down ≠ [] := by
    simpa using name.relativeNames_ne_nil dialect
  have encodes : (Path.mk ((name.relativeNames dialect).map .down)).IsText := by
    intro fileName member
    rcases List.mem_map.1 member with ⟨listed, inside, same⟩
    cases same
    exact isText_of_mem_relativeNames inside
  rw [relativePath, ← relativeTexts, ← map_text_relativeNames, ← Path.text_map_down,
    Path.ofText_text nonempty, Path.reread_of_isText encodes]

/-- The path of a class below the base is a plain spelling. -/
theorem toPath_join_relativePath (base : Location) (name : ClassName) (dialect : Dialect) :
    base.toPath.join (name.relativePath dialect.extension) =
      (base.descend (name.relativeNames dialect)).toPath := by
  rw [relativePath_eq, Location.toPath_join _ (name.relativeNames_ne_nil dialect)]

end ClassName

namespace Identity

theorem stem?_of_octets {fileName : FileName} {stem : Text} {dialect : Dialect}
    (nonempty : stem ≠ [])
    (same : fileName.octets = Utf8.encode (stem ++ '.' :: dialect.extension)) :
    stem? fileName = some stem := by
  have free := (ClassName.extension_free dialect).1
  have known : Dialect.ofFileName? fileName = some dialect := by
    simp [Dialect.ofFileName?, FileName.extension?_of_octets nonempty free same]
  rw [stem?, FileName.text?_eq_some_iff.2 same, Option.map_some, known,
    Text.cutLast?_append free]

theorem isText_of_stem? {fileName : FileName} {stem : Text}
    (found : stem? fileName = some stem) : fileName.IsText := by
  rcases Option.map_eq_some_iff.1 found with ⟨text, read, -⟩
  exact ⟨text, FileName.text?_eq_some_iff.1 read⟩

theorem ofLocation_eq_ok_iff {base location : Location} {identity : Identity} :
    ofLocation base location = .ok identity ↔
      ∃ names fileName, location = base.descend (names ++ [fileName]) ∧
        identity.name.package = Text.join '.' (names.map FileName.text) ∧
        stem? fileName = some identity.name.simple ∧
        identity = ⟨location, identity.name, [], .location⟩ := by
  constructor
  · intro derived
    simp only [ofLocation] at derived
    split at derived
    · cases derived
    · next all below =>
      split at derived
      · cases derived
      · next simple found =>
        rcases Option.bind_eq_some_iff.1 found with ⟨fileName, last, stem⟩
        rcases List.getLast?_eq_some_iff.1 last with ⟨names, rfl⟩
        rw [List.dropLast_concat] at derived
        split at derived
        · cases derived
        · split at derived
          · cases derived
          · cases built : ClassName.ofParts (Text.join '.' (names.map FileName.text)) simple with
            | error failure =>
              simp only [built, bind, Except.bind] at derived
              cases derived
            | ok name =>
              simp only [built, bind, Except.bind, Except.ok.injEq] at derived
              subst derived
              rcases ClassName.ofParts_eq_ok_iff.1 built with ⟨package, rfl⟩
              exact ⟨names, fileName, Location.below?_eq_some_iff.1 below, package, stem, rfl⟩
  · rintro ⟨names, fileName, rfl, package, simple, shape⟩
    have below : base.below? (base.descend (names ++ [fileName])) = some (names ++ [fileName]) :=
      Location.below?_eq_some_iff.2 rfl
    have built : ClassName.ofParts (Text.join '.' (names.map FileName.text)) identity.name.simple =
        .ok identity.name := ClassName.ofParts_eq_ok_iff.2 ⟨package, rfl⟩
    have packageValid := identity.name.package_valid
    rw [package] at packageValid
    simp only [ofLocation, below, List.getLast?_concat, List.dropLast_concat, Option.bind_some,
      simple, packageValid, identity.name.simple_valid, built, bind, Except.bind, Bool.not_true,
      Bool.false_eq_true, ↓reduceIte]
    rw [← shape]

/-- The class that belongs where a class belongs is the class itself. -/
theorem ofLocation_relativeNames (base : Location) (name : ClassName) (dialect : Dialect) :
    ofLocation base (base.descend (name.relativeNames dialect)) =
      .ok ⟨base.descend (name.relativeNames dialect), name, [], .location⟩ := by
  rcases name.exists_relativeNames dialect with ⟨names, fileName, same, texts, encoded⟩
  refine ofLocation_eq_ok_iff.2 ⟨names, fileName, by rw [same], ?_, ?_, rfl⟩
  · rw [texts, Text.join_split]
  · exact stem?_of_octets name.simple_ne_nil encoded

/-- The directories that a package is made of are named by texts. -/
theorem isText_of_package {names : List FileName} {name : ClassName}
    (package : name.package = Text.join '.' (names.map FileName.text)) :
    ∀ directory ∈ names, directory.IsText := by
  intro directory member
  apply FileName.isText_of_notMem
  intro shown
  rcases Text.exists_mem_split shown (by decide : Utf8.replacement ≠ '.') with
    ⟨segment, listed, inside⟩
  have nonempty : names.map FileName.text ≠ [] :=
    List.ne_nil_of_mem (List.mem_map.2 ⟨directory, member, rfl⟩)
  have valid := name.package_valid
  rw [package, isPackageName, Text.split_join_eq_flatMap '.' nonempty, List.all_eq_true] at valid
  have segmentValid := valid segment
    (List.mem_flatMap.2 ⟨directory.text, List.mem_map.2 ⟨directory, member, rfl⟩, listed⟩)
  simp only [isSegment, Bool.and_eq_true, List.all_eq_true] at segmentValid
  exact absurd (segmentValid.2 _ inside) (by decide +kernel)

/-- The class that belongs at a location belongs in the directories of the location, each of them
cut at its dots. -/
theorem map_text_relativeNames_of_ofLocation {base location : Location} {identity : Identity}
    {dialect : Dialect} (located : ofLocation base location = .ok identity)
    (extended : location.extension? = some dialect.extension) :
    ∃ names fileName, location = base.descend (names ++ [fileName]) ∧
      (∀ name ∈ names ++ [fileName], name.IsText) ∧
      (identity.name.relativeNames dialect).map FileName.text =
        (names.flatMap fun name => Text.split '.' name.text) ++ [fileName.text] := by
  rcases ofLocation_eq_ok_iff.1 located with ⟨names, fileName, rfl, package, simple, -⟩
  have encodes := isText_of_stem? simple
  have extension : fileName.extension? = some dialect.extension := by
    simpa [Location.extension?, Location.fileName?, Location.descend, ← List.append_assoc]
      using extended
  rcases FileName.text_of_extension? encodes.octets_eq extension with
    ⟨stem, nonempty, -, text⟩
  have simple_eq : identity.name.simple = stem := by
    have known := stem?_of_octets nonempty (text ▸ encodes.octets_eq)
    exact Option.some.inj (simple.symm.trans known)
  have directories : names.map FileName.text ≠ [] := by
    intro empty
    have valid := identity.name.package_valid
    rw [package, empty] at valid
    cases valid
  refine ⟨names, fileName, rfl, ?_, ?_⟩
  · intro name member
    rcases List.mem_append.1 member with above | last
    · exact isText_of_package package name above
    · exact List.mem_singleton.1 last ▸ encodes
  · rw [ClassName.map_text_relativeNames, ClassName.relativeTexts, package, simple_eq, ← text,
      Text.split_join_eq_flatMap '.' directories, List.flatMap_map]

theorem flatMap_split_eq_iff {names : List FileName} :
    (names.flatMap fun name => Text.split '.' name.text) = names.map FileName.text ↔
      ∀ name ∈ names, '.' ∉ name.text := by
  constructor
  · intro same name member
    have listed : name.text ∈ names.map FileName.text := List.mem_map.2 ⟨name, member, rfl⟩
    rw [← same] at listed
    rcases List.mem_flatMap.1 listed with ⟨other, -, piece⟩
    exact Text.notMem_of_mem_split piece
  · intro free
    rw [← List.flatMap_map]
    apply Text.flatMap_split_of_notMem
    intro text member
    rcases List.mem_map.1 member with ⟨name, listed, rfl⟩
    exact free name listed

/-- A file lies where its class belongs exactly when no directory between the base and the file
has a dot in its name. -/
theorem descend_relativeNames_eq_iff {base : Location} {names : List FileName}
    {fileName : FileName} {others : List FileName}
    (encode : ∀ name ∈ names ++ [fileName], name.IsText) (alsoEncode : ∀ name ∈ others, name.IsText)
    (texts : others.map FileName.text =
      (names.flatMap fun name => Text.split '.' name.text) ++ [fileName.text]) :
    base.descend others = base.descend (names ++ [fileName]) ↔
      ∀ name ∈ names, '.' ∉ name.text := by
  rw [← flatMap_split_eq_iff]
  constructor
  · intro same
    rw [base.descend_injective same, List.map_append, List.map_singleton] at texts
    exact (List.append_cancel_right texts).symm
  · intro same
    rw [same, ← List.map_singleton, ← List.map_append] at texts
    rw [FileName.eq_of_map_text alsoEncode encode texts]

end Identity

end ClassMove
