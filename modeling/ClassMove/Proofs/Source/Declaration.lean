import ClassMove.Identity.Basic
import ClassMove.Proofs.ClassName
import ClassMove.Proofs.Source.Retarget

/-!
# What a file declares

The class and the imports that octets declare do not depend on where the octets lie,
and giving a file other declarations or other imports changes them as one expects.
-/

namespace ClassMove

/-- The class that octets declare, and the classes that they import. -/
def declaration? (octets : List UInt8) : Option (ClassName × List ClassName) :=
  match Header.ofOctets octets with
  | .error _ => none
  | .ok header =>
    match ClassName.ofParts header.package header.typeName with
    | .error _ => none
    | .ok name => some (name, header.imports)

theorem declaration?_eq_some_iff {octets : List UInt8} {name : ClassName}
    {imports : List ClassName} :
    declaration? octets = some (name, imports) ↔
      Header.ofOctets octets = .ok ⟨name.package, imports, name.simple⟩ := by
  rw [declaration?]
  cases Header.ofOctets octets with
  | error fault => simp
  | ok header =>
    rcases header with ⟨package, found, typeName⟩
    simp only [Except.ok.injEq, Header.mk.injEq]
    cases built : ClassName.ofParts package typeName with
    | error failure =>
      simp only [reduceCtorEq, false_iff]
      rintro ⟨rfl, -, rfl⟩
      rw [ClassName.ofParts_eq_ok_iff.2 ⟨rfl, rfl⟩] at built
      cases built
    | ok other =>
      rcases ClassName.ofParts_eq_ok_iff.1 built with ⟨rfl, rfl⟩
      simp only [Option.some.injEq, Prod.mk.injEq]
      constructor
      · rintro ⟨rfl, rfl⟩
        exact ⟨rfl, rfl, rfl⟩
      · rintro ⟨package, rfl, simple⟩
        refine ⟨?_, rfl⟩
        have same : ClassName.ofParts other.package other.simple = .ok name :=
          ClassName.ofParts_eq_ok_iff.2 ⟨package.symm, simple.symm⟩
        exact Except.ok.inj (built.symm.trans same)

/-! ## Declarations and identities -/

theorem ClassName.isSkippable_of_ofParts {package simple : Text} {failure : Failure}
    (failed : ofParts package simple = .error failure) : failure.cause.isSkippable = true := by
  rw [ofParts] at failed
  split at failed
  · split at failed
    · cases failed
    · cases Except.error.inj failed
      rfl
  · cases Except.error.inj failed
    rfl

namespace Identity

theorem ofOctets_eq_ok_iff {shown : String} {location : Location} {octets : List UInt8}
    {identity : Identity} :
    ofOctets shown location octets = .ok identity ↔
      declaration? octets = some (identity.name, identity.imports) ∧
        identity.location = location ∧ identity.derivation = .contents := by
  rw [ofOctets, declaration?]
  cases Header.ofOctets octets with
  | error fault => simp
  | ok header =>
    simp only [bind, Except.bind]
    cases ClassName.ofParts header.package header.typeName with
    | error failure => simp
    | ok name =>
      rcases identity with ⟨found, name', imports, derivation⟩
      simp only [Except.ok.injEq, Identity.mk.injEq, Option.some.injEq, Prod.mk.injEq]
      constructor
      · rintro ⟨rfl, rfl, rfl, rfl⟩
        exact ⟨⟨rfl, rfl⟩, rfl, rfl⟩
      · rintro ⟨⟨rfl, rfl⟩, rfl, rfl⟩
        exact ⟨rfl, rfl, rfl, rfl⟩

/-- Octets that declare nothing are passed over, not failed on. -/
theorem isSkippable_of_ofOctets {shown : String} {location : Location} {octets : List UInt8}
    {failure : Failure} (failed : ofOctets shown location octets = .error failure) :
    failure.cause.isSkippable = true ∧ declaration? octets = none := by
  rw [ofOctets] at failed
  rw [declaration?]
  cases scanned : Header.ofOctets octets with
  | error fault =>
    rw [scanned] at failed
    cases Except.error.inj failed
    exact ⟨rfl, rfl⟩
  | ok header =>
    simp only [scanned, bind, Except.bind] at failed
    cases built : ClassName.ofParts header.package header.typeName with
    | ok name =>
      rw [built] at failed
      cases failed
    | error other =>
      rw [built] at failed
      cases Except.error.inj failed
      exact ⟨ClassName.isSkippable_of_ofParts built, by simp [built]⟩

/-- A location where no class belongs is passed over, too. -/
theorem isSkippable_of_ofLocation {base location : Location} {failure : Failure}
    (failed : ofLocation base location = .error failure) : failure.cause.isSkippable = true := by
  simp only [ofLocation] at failed
  split at failed
  · cases Except.error.inj failed
    rfl
  · next names _ =>
    split at failed
    · cases Except.error.inj failed
      rfl
    · next simple _ =>
      split at failed
      · cases Except.error.inj failed
        rfl
      · split at failed
        · cases Except.error.inj failed
          rfl
        · generalize Text.join '.' (names.dropLast.map FileName.text) = package at failed
          cases built : ClassName.ofParts package simple with
          | ok name => simp [built, bind, Except.bind] at failed
          | error other =>
            simp only [built, bind, Except.bind, Except.error.injEq] at failed
            subst failed
            exact ClassName.isSkippable_of_ofParts built

theorem ofContents_eq_ok_iff {files : FileSystem} {location : Location} {identity : Identity} :
    ofContents files location.toPath = .ok identity ↔
      ∃ octets, files.read location.toPath = .ok octets ∧
        declaration? octets = some (identity.name, identity.imports) ∧
        identity.location = location ∧ identity.derivation = .contents := by
  rw [ofContents]
  cases files.read location.toPath with
  | error refusal => simp
  | ok octets => simp [FileSystem.locationOf, ofOctets_eq_ok_iff]

end Identity

theorem identitiesAgree_self (dialect : Dialect) (name : ClassName) :
    identitiesAgree dialect name name = true := by
  rw [identitiesAgree]
  split
  · simp
  · simp

/-! ## Declarations after editing -/

/-- A file that was given the declarations of a class declares it and imports what it did. -/
theorem declaration?_declared {octets : List UInt8} {old : ClassName} {imports : List ClassName}
    (found : declaration? octets = some (old, imports)) (new : ClassName) :
    declaration? (declared new octets) = some (new, imports) := by
  rw [declaration?_eq_some_iff] at found ⊢
  exact Header.ofOctets_declared new found

/-- A file whose imports were pointed at a class declares what it did and imports that class
where it imported the old one. -/
theorem declaration?_reimported {old new : ClassName} (importable : new.Importable)
    (octets : List UInt8) :
    declaration? (reimported old new octets) =
      (declaration? octets).map fun (name, imports) =>
        (name, imports.map (ClassName.repoint old new)) := by
  rw [declaration?, Header.ofOctets_reimported importable, declaration?]
  cases Header.ofOctets octets with
  | error fault => rfl
  | ok header =>
    simp only [Except.map, Header.repoint]
    cases ClassName.ofParts header.package header.typeName with
    | error failure => rfl
    | ok name => rfl

/-- A file whose imports were pointed at any class declares what it did. -/
theorem exists_declaration?_reimported (old new : ClassName) {octets : List UInt8}
    {name : ClassName} {imports : List ClassName}
    (found : declaration? octets = some (name, imports)) :
    ∃ imports', declaration? (reimported old new octets) = some (name, imports') := by
  rcases Header.exists_ofOctets_reimported old new (declaration?_eq_some_iff.1 found) with
    ⟨imports', scanned⟩
  exact ⟨imports', declaration?_eq_some_iff.2 scanned⟩

end ClassMove
