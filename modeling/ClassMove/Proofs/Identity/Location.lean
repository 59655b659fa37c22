import ClassMove.Proofs.Path.Relative

/-!
# Classes and the places where they belong

Where a class belongs tells the class, below every base and for every dialect, so no two
classes belong at the same place.  That holds for every extension: also an extension with
slashes in it, which spells more than a file name, does not hide where the name of the
class ends.

A place tells no class if it does not lie below the base.  This failure has a hint that no
other failure has.
-/

namespace ClassMove

/-! ## Pieces of a relative path -/

theorem Piece.exists_ofText {text : Text} (valid : isFileName (Utf8.encode text) = true) :
    ∃ name, Piece.ofText text = .down name :=
  ⟨⟨Utf8.encode text, valid⟩, Piece.ofOctets_octets (.down ⟨Utf8.encode text, valid⟩)⟩

/-- A path that starts with file names starts where it is looked at from, and leads through all of
these names. -/
theorem Path.components_ofText_append {texts : List Text} (nonempty : texts ≠ [])
    (valid : ∀ text ∈ texts, isFileName (Utf8.encode text) = true) (rest : List Piece) :
    Path.components ⟨texts.map Piece.ofText ++ rest⟩ =
      (.none, texts.map Piece.ofText ++ rest.filter (!·.stays)) := by
  have moving : (texts.map Piece.ofText).filter (!·.stays) = texts.map Piece.ofText := by
    rw [List.filter_eq_self]
    intro piece member
    rcases List.mem_map.1 member with ⟨text, listed, rfl⟩
    rcases Piece.exists_ofText (valid text listed) with ⟨name, same⟩
    rw [same]
    rfl
  cases texts with
  | nil => exact absurd rfl nonempty
  | cons text texts =>
    rcases Piece.exists_ofText (valid text (List.mem_cons_self ..)) with ⟨name, same⟩
    have anchored : Path.anchored ⟨(text :: texts).map Piece.ofText ++ rest⟩ =
        (.none, (text :: texts).map Piece.ofText ++ rest) := by
      rw [List.map_cons, same]
      rfl
    rw [Path.components, anchored, List.filter_append, moving]

namespace ClassName

/-- A relative path leads through the segments of the package to the file name, and on through what
an extension spells behind its first slash. -/
theorem components_relativePath (name : ClassName) {extension first : Text} {later : List Text}
    (cut : Text.split '/' extension = first :: later) :
    (name.relativePath extension).components =
      (.none, (Text.split '.' name.package ++ [name.simple ++ '.' :: first]).map Piece.ofText ++
        (later.map Piece.ofText).filter (!·.stays)) := by
  have free : '/' ∉ first := Text.notMem_of_mem_split (cut ▸ List.mem_cons_self ..)
  have noSlash : '/' ∉ name.simple ++ ['.'] := by simpa using name.slash_notMem_simple
  have file : Text.split '/' (name.simple ++ '.' :: extension) =
      (name.simple ++ '.' :: first) :: later := by
    simpa using Text.split_append_of_notMem noSlash cut
  have segments : (Text.split '.' name.package).flatMap (Text.split '/') =
      Text.split '.' name.package :=
    Text.flatMap_split_of_notMem fun _ member =>
      (isFileName_encode_iff.1 (name.isFileName_of_mem_package member)).2.2.2
  have pieces : (name.relativePath extension).pieces =
      (Text.split '.' name.package ++ [name.simple ++ '.' :: first]).map Piece.ofText ++
        later.map Piece.ofText := by
    rw [relativePath, Path.ofText_eq, Text.split_join_eq_flatMap '/' (by simp), List.flatMap_append,
      segments, List.flatMap_singleton, file]
    simp
  have valid : ∀ text ∈ Text.split '.' name.package ++ [name.simple ++ '.' :: first],
      isFileName (Utf8.encode text) = true := fun _ => name.isFileName_of_mem_package_append free
  rw [← Path.components_ofText_append (by simp) valid, ← pieces]

/-- No two classes have the same relative path, whatever the extension is. -/
theorem components_relativePath_injective (extension : Text) :
    Function.Injective fun name : ClassName => (name.relativePath extension).components := by
  intro first second same
  cases cut : Text.split '/' extension with
  | nil => exact absurd cut (Text.split_ne_nil '/' extension)
  | cons piece later =>
    have free : '/' ∉ piece := Text.notMem_of_mem_split (cut ▸ List.mem_cons_self ..)
    have spelled : ∀ name : ClassName,
        ((Text.split '.' name.package ++ [name.simple ++ '.' :: piece]).map Piece.ofText).map
            Piece.octets =
          (Text.split '.' name.package ++ [name.simple ++ '.' :: piece]).map Utf8.encode := by
      intro name
      rw [List.map_map]
      apply List.map_congr_left
      intro text member
      exact Piece.octets_ofOctets
        (slash_notMem_of_isFileName (name.isFileName_of_mem_package_append free member))
    simp only [components_relativePath _ cut, Prod.mk.injEq, true_and] at same
    have texts := congrArg (List.map Piece.octets) (List.append_cancel_right same)
    rw [spelled, spelled, List.map_inj_right fun _ _ => Utf8.encode_injective] at texts
    rcases List.append_inj' texts rfl with ⟨packages, files⟩
    have joined := congrArg (Text.join '.') packages
    rw [Text.join_split, Text.join_split] at joined
    rw [ClassName.mk.injEq]
    exact ⟨joined, List.append_cancel_right (List.singleton_inj.1 files)⟩

end ClassName

/-! ## Places outside the base -/

namespace Identity

/-- The hint that a file does not lie below the base. -/
def outsideHint (base : Location) : String :=
  "File is outside the project base " ++ base.display

theorem ofLocation_of_outside {base location : Location}
    (outside : ¬ base.names <+: location.names) :
    ofLocation base location =
      .error ⟨.invalidPackage location.display (some location.display), [outsideHint base]⟩ := by
  rw [ofLocation, Location.below?_eq_none_iff.2 outside]
  rfl

/-- Below the base, a location that tells no class is refused without a hint. -/
theorem hints_of_ofLocation {base location : Location} (inside : base.names <+: location.names)
    {failure : Failure} (failed : ofLocation base location = .error failure) :
    failure.hints = [] := by
  simp only [ofLocation] at failed
  split at failed
  · next missing => exact absurd inside (Location.below?_eq_none_iff.1 missing)
  · split at failed
    · cases failed
      rfl
    · split at failed
      · cases failed
        rfl
      · split at failed
        · cases failed
          rfl
        · next simpleValid packageValid =>
          -- both names were found valid, so they make a class
          simp only [Bool.not_eq_true', Bool.not_eq_false] at simpleValid packageValid
          rw [ClassName.ofParts, dif_pos packageValid, dif_pos simpleValid] at failed
          cases failed

/-- A location is refused for lying outside the base exactly if it does. -/
theorem ofLocation_outside_iff {base location : Location} :
    (∃ failure, ofLocation base location = .error failure ∧
      failure.cause.code = "class.invalid_package" ∧ outsideHint base ∈ failure.hints) ↔
      ¬ base.names <+: location.names := by
  constructor
  · rintro ⟨failure, failed, -, hinted⟩ inside
    rw [hints_of_ofLocation inside failed] at hinted
    cases hinted
  · intro outside
    exact ⟨_, ofLocation_of_outside outside, rfl, List.mem_singleton.2 rfl⟩

end Identity

/-- The place of a class below a base tells that class, and nothing about imports; no two classes
have the same relative path; and a path is refused for lying outside the base exactly if its
location does not begin with that of the base. -/
theorem locations_tell_classes (current : Location) (base : Path) :
    (∀ (name : ClassName) (dialect : Dialect), ∃ identity,
      Identity.ofLocation (.ofPath current base) (.ofPath current
        ((Location.ofPath current base).toPath.join (name.relativePath dialect.extension))) =
          .ok identity ∧
      identity.name = name ∧ identity.imports = [] ∧
      identity.location.toPath =
        (Location.ofPath current base).toPath.join (name.relativePath dialect.extension)) ∧
    (∀ extension : Text,
      Function.Injective fun name : ClassName => (name.relativePath extension).components) ∧
    ∀ path : Path,
      (∃ failure,
        Identity.ofLocation (.ofPath current base) (.ofPath current path) = .error failure ∧
        failure.cause.code = "class.invalid_package" ∧
        Identity.outsideHint (.ofPath current base) ∈ failure.hints) ↔
      ¬ (Location.ofPath current base).names <+: (Location.ofPath current path).names := by
  refine ⟨?_, ClassName.components_relativePath_injective, ?_⟩
  · intro name dialect
    refine ⟨⟨(Location.ofPath current base).descend (name.relativeNames dialect), name, [],
      .location⟩, ?_, rfl, rfl, (ClassName.toPath_join_relativePath _ name dialect).symm⟩
    rw [ClassName.toPath_join_relativePath, Location.ofPath_toPath]
    exact Identity.ofLocation_relativeNames _ name dialect
  · intro path
    exact Identity.ofLocation_outside_iff

end ClassMove
