import ClassMove.Text.Basic

/-!
# Pieces of a text

How cutting at a separator meets putting texts one behind another, and which
characters the pieces hold.
-/

namespace ClassMove.Text

section Cutting

variable {α : Type}

theorem join_cons_eq_flatMap (separator : α) (piece : List α) (pieces : List (List α)) :
    join separator (piece :: pieces) = piece ++ pieces.flatMap (separator :: ·) := by
  induction pieces generalizing piece with
  | nil => simp [join]
  | cons next pieces ih => rw [join_cons_of_ne_nil _ _ (by simp), ih, List.flatMap_cons]; simp

theorem join_append (separator : α) {front : List (List α)} (nonempty : front ≠ [])
    (back : List (List α)) :
    join separator (front ++ back) = join separator front ++ back.flatMap (separator :: ·) := by
  cases front with
  | nil => exact absurd rfl nonempty
  | cons piece pieces =>
    rw [List.cons_append, join_cons_eq_flatMap, join_cons_eq_flatMap, List.flatMap_append,
      List.append_assoc]

variable [DecidableEq α]

/-- Cutting at a separator cuts the texts on both sides of it. -/
theorem split_append_separator (separator : α) (front back : List α) :
    split separator (front ++ separator :: back) =
      split separator front ++ split separator back := by
  induction front with
  | nil => simp [split]
  | cons c front ih =>
    simp only [List.cons_append, split]
    split
    · rw [ih]
      rfl
    · rw [ih]
      cases cut : split separator front with
      | nil => exact absurd cut (split_ne_nil separator front)
      | cons piece pieces => rfl

/-- Pieces that follow a text, each behind a separator, are found behind the pieces of the text. -/
theorem split_append_flatMap {separator : α} {pieces : List (List α)}
    (free : ∀ piece ∈ pieces, separator ∉ piece) (front : List α) :
    split separator (front ++ pieces.flatMap (separator :: ·)) =
      split separator front ++ pieces := by
  induction pieces generalizing front with
  | nil => simp
  | cons piece pieces ih =>
    have absent := free piece (List.mem_cons_self ..)
    have later : ∀ other ∈ pieces, separator ∉ other :=
      fun other member => free other (List.mem_cons_of_mem _ member)
    calc split separator (front ++ (piece :: pieces).flatMap (separator :: ·))
        = split separator (front ++ separator :: (piece ++ pieces.flatMap (separator :: ·))) := by
          simp
      _ = split separator front ++ (split separator piece ++ pieces) := by
          rw [split_append_separator, ih later]
      _ = split separator front ++ piece :: pieces := by
          rw [split_of_notMem absent]
          rfl

/-- Cutting what was joined cuts every piece. -/
theorem split_join_eq_flatMap (separator : α) {pieces : List (List α)} (nonempty : pieces ≠ []) :
    split separator (join separator pieces) = pieces.flatMap (split separator) := by
  induction pieces with
  | nil => exact absurd rfl nonempty
  | cons piece pieces ih =>
    cases pieces with
    | nil => simp [join]
    | cons next pieces =>
      rw [join_cons_of_ne_nil _ _ (List.cons_ne_nil next pieces), split_append_separator,
        ih (List.cons_ne_nil next pieces)]
      rfl

theorem split_append_of_notMem {separator : α} {front back : List α}
    (free : separator ∉ front) {piece : List α} {pieces : List (List α)}
    (cut : split separator back = piece :: pieces) :
    split separator (front ++ back) = (front ++ piece) :: pieces := by
  induction front with
  | nil => exact cut
  | cons c front ih =>
    simp only [List.mem_cons, not_or] at free
    rw [List.cons_append, split, if_neg (Ne.symm free.1), ih free.2]
    rfl

theorem flatMap_split_of_notMem {separator : α} {texts : List (List α)}
    (free : ∀ text ∈ texts, separator ∉ text) : texts.flatMap (split separator) = texts := by
  induction texts with
  | nil => rfl
  | cons text texts ih =>
    rw [List.flatMap_cons, split_of_notMem (free text (List.mem_cons_self ..)),
      ih fun other member => free other (List.mem_cons_of_mem _ member)]
    rfl

/-- The last separator is the one that no other follows. -/
theorem cutLast?_append {separator : α} {back : List α} (free : separator ∉ back)
    (front : List α) : cutLast? separator (front ++ separator :: back) = some (front, back) := by
  induction front with
  | nil => simp [cutLast?, cutLast?_eq_none_iff.2 free]
  | cons c front ih => simp [cutLast?, ih]

end Cutting

/-- Every character that is no separator stands in a piece. -/
theorem exists_mem_split {separator c : Char} {text : Text} (member : c ∈ text)
    (other : c ≠ separator) : ∃ piece ∈ split separator text, c ∈ piece := by
  induction text with
  | nil => cases member
  | cons first rest ih =>
    simp only [split]
    split
    · next same =>
      have later : c ∈ rest := by
        rcases List.mem_cons.1 member with equal | later
        · exact absurd (equal.trans same) other
        · exact later
      obtain ⟨piece, listed, inside⟩ := ih later
      exact ⟨piece, List.mem_cons_of_mem _ listed, inside⟩
    · cases cut : split separator rest with
      | nil => exact absurd cut (split_ne_nil separator rest)
      | cons piece pieces =>
        rcases List.mem_cons.1 member with equal | later
        · exact ⟨first :: piece, List.mem_cons_self .., equal ▸ List.mem_cons_self ..⟩
        · obtain ⟨found, listed, inside⟩ := ih later
          rw [cut] at listed
          rcases List.mem_cons.1 listed with same | behind
          · exact ⟨first :: piece, List.mem_cons_self .., List.mem_cons_of_mem _ (same ▸ inside)⟩
          · exact ⟨found, List.mem_cons_of_mem _ behind, inside⟩

theorem notMem_of_forall {p : Char → Bool} {c : Char} {text : Text}
    (inside : ∀ d ∈ text, p d = true) (outside : p c = false) : c ∉ text := by
  intro member
  rw [inside c member] at outside
  cases outside

end ClassMove.Text
