import ClassMove.Proofs.Path.Location

/-!
# Joined paths

A path behind another one leads where it leads from the place of the other one, however
both are spelled.  In the spelling the seam has three forms: nothing before it, a slash at the
end of the first path, or a slash that is put between the two.
-/

namespace ClassMove

namespace Path

/-! ## Spellings that spell nothing -/

theorem isEmpty_iff {path : Path} :
    path.isEmpty = true ↔ path = ⟨[]⟩ ∨ path = ⟨[.empty]⟩ := by
  rcases path with ⟨pieces⟩
  simp [isEmpty]

theorem isEmpty_eq_false_iff {path : Path} :
    path.isEmpty = false ↔ path.pieces ≠ [] ∧ path.pieces ≠ [.empty] := by
  simp [isEmpty]

theorem isAbsolute_append {front more : List Piece} (nonempty : front ≠ []) (behind : more ≠ []) :
    Path.isAbsolute ⟨front ++ more⟩ = (front.head? == some .empty) := by
  cases front with
  | nil => exact absurd rfl nonempty
  | cons first rest =>
    cases together : rest ++ more with
    | nil => exact absurd (List.append_eq_nil_iff.1 together).2 behind
    | cons next others =>
      rw [List.cons_append, together]
      cases first with
      | _ => rfl

theorem isAbsolute_eq_head {path : Path} (spelled : path.isEmpty = false) :
    path.isAbsolute = (path.pieces.head? == some .empty) := by
  rcases path with ⟨pieces⟩
  rcases isEmpty_eq_false_iff.1 spelled with ⟨nonempty, noBlank⟩
  cases pieces with
  | nil => exact absurd rfl nonempty
  | cons first rest =>
    cases first with
    | empty =>
      cases rest with
      | nil => exact absurd rfl noBlank
      | cons next rest => rfl
    | _ => rfl

/-! ## The seam -/

theorem join_of_isAbsolute (path : Path) {rest : Path} (absolute : rest.isAbsolute = true) :
    path.join rest = rest := by
  rw [join, if_pos absolute]

/-- How a relative path is put behind a path: on its own, in place of the empty piece behind a slash
at the end, or behind another slash. -/
theorem join_cases (path : Path) {rest : Path} (relative : rest.isAbsolute = false) :
    (path.isEmpty = true ∧ path.join rest = rest) ∨
      (∃ front, front ≠ [] ∧ path = ⟨front ++ [.empty]⟩ ∧
        path.join rest = ⟨front ++ rest.pieces⟩) ∨
      (path.isEmpty = false ∧ path.join rest = ⟨path.pieces ++ rest.pieces⟩) := by
  rw [join, if_neg (by simp [relative])]
  cases empty : path.isEmpty with
  | true => exact .inl ⟨rfl, rfl⟩
  | false =>
    right
    cases slash : path.endsInSlash with
    | false => exact .inr ⟨rfl, rfl⟩
    | true =>
      left
      simp only [endsInSlash, Bool.and_eq_true, decide_eq_true_eq, beq_iff_eq] at slash
      rcases List.getLast?_eq_some_iff.1 slash.2 with ⟨front, whole⟩
      refine ⟨front, ?_, congrArg Path.mk whole, ?_⟩
      · rintro rfl
        rw [whole] at slash
        exact absurd slash.1 (by simp)
      · simp [whole]

end Path

/-! ## Places of joined paths -/

namespace Location

/-- A path behind another one leads where it leads from the place of the other one. -/
theorem ofPath_join (current : Location) (path : Path) {rest : Path} (spelled : rest.pieces ≠ []) :
    ofPath current (path.join rest) = ofPath (ofPath current path) rest := by
  cases relative : rest.isAbsolute with
  | true => rw [Path.join_of_isAbsolute path relative, ofPath, ofPath, relative]; rfl
  | false =>
    have later : ∀ start, ofPath start rest = rest.pieces.foldl follow start := by
      intro start
      rw [ofPath, relative]
      rfl
    rw [later]
    rcases path.join_cases relative with ⟨empty, joined⟩ | ⟨front, nonempty, rfl, joined⟩ |
      ⟨spelledFirst, joined⟩
    · rw [joined, later]
      rcases Path.isEmpty_iff.1 empty with rfl | rfl
      · rfl
      · rfl
    · rw [joined, ofPath, ofPath, Path.isAbsolute_append nonempty spelled,
        Path.isAbsolute_append nonempty (by simp), List.foldl_append, List.foldl_append]
      rfl
    · rw [joined, ofPath, ofPath, Path.isAbsolute_eq_head spelledFirst,
        Path.isAbsolute_append (Path.isEmpty_eq_false_iff.1 spelledFirst).1 spelled,
        List.foldl_append]

/-- A name behind a path leads one step down from its location. -/
theorem ofPath_child (current : Location) (path : Path) (name : FileName) :
    ofPath current (path.child name) = (ofPath current path).descend [name] :=
  current.ofPath_join path (List.cons_ne_nil _ _)

theorem ofPath_descend (current : Location) (path : Path) (names : List FileName) :
    ofPath current (path.descend names) = (ofPath current path).descend names := by
  induction names generalizing path with
  | nil => rw [descend_nil]; rfl
  | cons name names ih =>
    rw [Path.descend, List.foldl_cons, ← Path.descend, ih, ofPath_child, descend_descend]
    rfl

end Location

end ClassMove
