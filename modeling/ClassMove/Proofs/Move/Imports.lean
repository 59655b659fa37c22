import ClassMove.Proofs.Move.Tree

/-!
# Imports after a move

After a move every file that was searched is read as before, with the moved class
under its new name wherever it was imported under the old one.
-/

namespace ClassMove

/-! ## Octets whose imports have followed -/

theorem map_repoint_eq_self {old new : ClassName} {imports : List ClassName}
    (absent : old ∉ imports) : imports.map (ClassName.repoint old new) = imports := by
  conv => rhs; rw [← List.map_id imports]
  apply List.map_congr_left
  intro name member
  rw [ClassName.repoint, if_neg, id_eq]
  rintro rfl
  exact absent member

theorem notMem_map_repoint {old new : ClassName} (renamed : old ≠ new)
    (imports : List ClassName) : old ∉ imports.map (ClassName.repoint old new) := by
  intro member
  rcases List.mem_map.1 member with ⟨name, -, same⟩
  rw [ClassName.repoint] at same
  split at same
  · exact renamed same.symm
  · next other => exact other same

/-- A class that follows is imported in the places of the old one. -/
theorem declaration?_followed {old new : ClassName} (importable : new.Importable)
    (octets : List UInt8) :
    declaration? (followed old new octets) =
      (declaration? octets).map fun (name, imports) =>
        (name, imports.map (ClassName.repoint old new)) := by
  cases imports : importsClass old octets with
  | true => rw [followed, if_pos imports, declaration?_reimported importable]
  | false =>
    rw [followed, imports]
    cases found : declaration? octets with
    | none => simp [found]
    | some pair =>
      rcases pair with ⟨name, classes⟩
      have absent : old ∉ classes := by simpa [importsClass, found] using imports
      simp [found, map_repoint_eq_self absent]

theorem notMem_imports_followed {old new name : ClassName} {octets : List UInt8}
    {imports : List ClassName} (importable : new.Importable) (renamed : old ≠ new)
    (found : declaration? (followed old new octets) = some (name, imports)) : old ∉ imports := by
  rw [declaration?_followed importable] at found
  rcases Option.map_eq_some_iff.1 found with ⟨⟨name', classes⟩, -, same⟩
  rw [← (Prod.mk.inj same).2]
  exact notMem_map_repoint renamed classes

theorem followed_of_declaration?_eq_none {octets : List UInt8}
    (nothing : declaration? octets = none) (old new : ClassName) :
    followed old new octets = octets := by
  simp [followed, importsClass, nothing]

theorem afterWalk_of_isSearched {settings : Settings} {base location : Location} {plan : MovePlan}
    (renamed : plan.old ≠ plan.new) (inside : isSearched settings base location = true)
    (octets : List UInt8) :
    afterWalk settings base plan location octets = followed plan.old plan.new octets := by
  simp [afterWalk, followed, renamed, inside]

/-! ## All files that were searched -/

/-- Every file that is searched imports `new` where it imported `old`, and declares what it did;
the file that was moved declares `new`.  Files that cannot be read as source are as they were. -/
structure ImportsFollow (files final : FileSystem) (settings : Settings)
    (base source target : Location) (old new : ClassName) : Prop where
  others : ∀ location content, location ≠ source → location ≠ target →
    isSearched settings base location = true → files.entryAt? location = some (.file content) →
    ∀ shown identity, Identity.ofOctets shown location content = .ok identity →
      ∃ fresh, final.entryAt? location = some (.file fresh) ∧
        Identity.ofOctets shown location fresh =
          .ok { identity with imports := identity.imports.map (ClassName.repoint old new) }
  unread : ∀ location content, location ≠ source → location ≠ target →
    isSearched settings base location = true → files.entryAt? location = some (.file content) →
    ∀ shown failure, Identity.ofOctets shown location content = .error failure →
      final.entryAt? location = some (.file content)
  moved : ∀ content, isSearched settings base target = true →
    files.entryAt? source = some (.file content) →
    ∀ shown identity, Identity.ofOctets shown source content = .ok identity →
      ∃ fresh, final.entryAt? target = some (.file fresh) ∧
        Identity.ofOctets shown target fresh =
          .ok ⟨target, new, identity.imports.map (ClassName.repoint old new), .contents⟩
  noneLeft : ∀ location content, isSearched settings base location = true →
    final.entryAt? location = some (.file content) →
    ∀ shown identity, Identity.ofOctets shown location content = .ok identity →
      old ∉ identity.imports

namespace MovedTree

variable {files final : FileSystem} {settings : Settings} {base source target : Location}
  {plan : MovePlan} {octets : List UInt8}

/-- Every file that is searched after the move has followed, the moved one with its new
declarations. -/
theorem exists_followed (tree : MovedTree files final settings base plan source target octets)
    (renamed : plan.old ≠ plan.new) {location : Location}
    (inside : isSearched settings base location = true) {content : List UInt8}
    (there : final.entryAt? location = some (.file content)) :
    ∃ old, content = followed plan.old plan.new old := by
  by_cases atTarget : location = target
  · rw [atTarget, tree.arrived, ← atTarget, afterWalk_of_isSearched renamed inside] at there
    cases there
    exact ⟨_, rfl⟩
  · have notSource : location ≠ source := by
      rintro rfl
      rw [tree.gone atTarget] at there
      cases there
    rcases tree.noFileAdded location content there with same | ⟨old, before⟩
    · exact absurd same atTarget
    · rw [tree.others location old notSource atTarget before,
        afterWalk_of_isSearched renamed inside] at there
      cases there
      exact ⟨old, rfl⟩

theorem importsFollow (tree : MovedTree files final settings base plan source target octets)
    (held : files.entryAt? source = some (.file octets)) {imports : List ClassName}
    (declares : declaration? octets = some (plan.old, imports)) (renamed : plan.old ≠ plan.new)
    (importable : plan.new.Importable) :
    ImportsFollow files final settings base source target plan.old plan.new := by
  have others : ∀ location content, location ≠ source → location ≠ target →
      isSearched settings base location = true → files.entryAt? location = some (.file content) →
      final.entryAt? location = some (.file (followed plan.old plan.new content)) := by
    intro location content notSource notTarget inside there
    rw [tree.others location content notSource notTarget there,
      afterWalk_of_isSearched renamed inside]
  constructor
  · intro location content notSource notTarget inside there shown identity derived
    rcases Identity.ofOctets_eq_ok_iff.1 derived with ⟨found, located, derivation⟩
    refine ⟨_, others location content notSource notTarget inside there, ?_⟩
    refine Identity.ofOctets_eq_ok_iff.2 ⟨?_, located, derivation⟩
    rw [declaration?_followed importable, found]
    rfl
  · intro location content notSource notTarget inside there shown failure failed
    have nothing := (Identity.isSkippable_of_ofOctets failed).2
    rw [others location content notSource notTarget inside there,
      followed_of_declaration?_eq_none nothing]
  · intro content inside there shown identity derived
    rw [held] at there
    cases there
    rcases Identity.ofOctets_eq_ok_iff.1 derived with ⟨found, -, -⟩
    rw [declares] at found
    rcases Prod.mk.inj (Option.some.inj found) with ⟨-, rfl⟩
    refine ⟨_, tree.arrived, Identity.ofOctets_eq_ok_iff.2 ⟨?_, rfl, rfl⟩⟩
    rw [afterWalk_of_isSearched renamed inside, declaration?_followed importable,
      declaration?_declared declares]
    rfl
  · intro location content inside there shown identity derived
    rcases tree.exists_followed renamed inside there with ⟨old, rfl⟩
    exact notMem_imports_followed importable renamed (Identity.ofOctets_eq_ok_iff.1 derived).1

end MovedTree

/-- After a move under a new name that can be imported, every file that was searched imports the
class under its new name in the places where it imported it under the old one, and declares what
it did; a file that cannot be read as source is unchanged.  No file that was searched imports the
class under its old name. -/
theorem moveClass_imports {files : FileSystem} {settings : Settings} {request : MoveRequest}
    {result : MoveResult} (real : request.preview = false)
    (succeeded : (moveClass files settings request).result = .ok result)
    (renamed : result.old ≠ result.new) (importable : result.new.Importable) :
    ∃ base checked plan target,
      Plans files settings request base checked plan ∧ plan.base = base.toPath ∧
      plan.source = checked.source.toPath ∧ plan.target = target.toPath ∧
      plan.old = result.old ∧ plan.new = result.new ∧
      ImportsFollow files (moveClass files settings request).files settings base checked.source
        target result.old result.new := by
  rcases exists_real_run real succeeded with
    ⟨base, checked, plan, octets, imports, moved, plans, old, new, held, declares, relocated,
      entries⟩
  rcases plans.spelled with ⟨baseSpelled, sourceSpelled, targetSpelled⟩
  rw [old, new] at renamed
  rw [new] at importable
  have follow := (relocated.movedTree held entries).importsFollow held declares renamed importable
  rw [← old, ← new] at follow
  exact ⟨base, checked, plan, plan.targetBelow base, plans, baseSpelled, sourceSpelled,
    targetSpelled, old.symm, new.symm, follow⟩

theorem moveClass_imports_sample :
    sampleRequest.preview = false ∧
      (moveClass sampleFiles {} sampleRequest).result = .ok sampleResult ∧
      sampleResult.old ≠ sampleResult.new ∧ sampleResult.new.Importable ∧
      ImportsFollow sampleFiles (moveClass sampleFiles {} sampleRequest).files {}
        (.ofString "/java") (.ofString "/java/a/A.java") (.ofString "/java/c/C.java")
        sampleResult.old sampleResult.new := by
  have renamed : sampleResult.old ≠ sampleResult.new := by decide
  have importable : sampleResult.new.Importable := ⟨by decide +kernel, by decide +kernel⟩
  refine ⟨rfl, moveClass_sample, renamed, importable, ?_⟩
  rcases moveClass_imports rfl moveClass_sample renamed importable with
    ⟨base, checked, plan, target, plans, -, -, targetSpelled, -, -, follow⟩
  rcases plans.unique plans_sample with ⟨rfl, rfl, rfl⟩
  cases target_sample targetSpelled
  exact follow

end ClassMove
