/-!
# Text as characters

Names and source lines are taken apart character by character, so they are kept
as lists of characters.  This module has the three ways of taking a text apart
that the rest of the library uses: at every separator, at the last separator, and
after a fixed beginning.  Each comes with the equation that says how the text is
put together again.  The octets of a file name are cut at separators in the same
way.
-/

namespace ClassMove

/-- A text as the list of its characters. -/
abbrev Text := List Char

namespace Text

section Cutting

variable {α : Type}

/-! ## Cutting at every separator -/

/-- The pieces with a separator between each two of them. -/
def join (separator : α) : List (List α) → List α
  | [] => []
  | [piece] => piece
  | piece :: pieces => piece ++ separator :: join separator pieces

theorem join_cons_of_ne_nil (separator : α) (piece : List α) {pieces : List (List α)}
    (nonempty : pieces ≠ []) :
    join separator (piece :: pieces) = piece ++ separator :: join separator pieces := by
  cases pieces with
  | nil => exact absurd rfl nonempty
  | cons next others => rfl

variable [DecidableEq α]

/-- The pieces between the separators.  There is one piece more than there are separators. -/
def split (separator : α) : List α → List (List α)
  | [] => [[]]
  | c :: rest =>
    if c = separator then [] :: split separator rest
    else
      match split separator rest with
      | [] => [[c]]
      | piece :: pieces => (c :: piece) :: pieces

theorem split_ne_nil (separator : α) (text : List α) : split separator text ≠ [] := by
  cases text with
  | nil => simp [split]
  | cons c rest =>
    simp only [split]
    split
    · simp
    · split <;> simp

/-- Joining the pieces gives the text back. -/
@[simp]
theorem join_split (separator : α) (text : List α) :
    join separator (split separator text) = text := by
  induction text with
  | nil => rfl
  | cons c rest ih =>
    simp only [split]
    split
    next equal =>
      rw [join_cons_of_ne_nil _ _ (split_ne_nil separator rest), ih, equal]
      rfl
    next =>
      cases cut : split separator rest with
      | nil => exact absurd cut (split_ne_nil separator rest)
      | cons piece pieces =>
        rw [cut] at ih
        cases pieces with
        | nil => simpa [join] using ih
        | cons next others => simpa [join] using ih

/-- A text without the separator is a single piece. -/
theorem split_of_notMem {separator : α} {text : List α} (absent : separator ∉ text) :
    split separator text = [text] := by
  induction text with
  | nil => rfl
  | cons c rest ih =>
    simp only [List.mem_cons, not_or] at absent
    have different := Ne.symm absent.1
    simp [split, different, ih absent.2]

theorem split_append_cons {separator : α} {piece : List α} (absent : separator ∉ piece)
    (rest : List α) :
    split separator (piece ++ separator :: rest) = piece :: split separator rest := by
  induction piece with
  | nil => simp [split]
  | cons c others ih =>
    simp only [List.mem_cons, not_or] at absent
    have different := Ne.symm absent.1
    simp [split, different, ih absent.2]

/-- Pieces that are free of the separator are found again. -/
theorem split_join {separator : α} {pieces : List (List α)} (nonempty : pieces ≠ [])
    (free : ∀ piece ∈ pieces, separator ∉ piece) :
    split separator (join separator pieces) = pieces := by
  induction pieces with
  | nil => exact absurd rfl nonempty
  | cons piece others ih =>
    have absent := free piece (by simp)
    cases others with
    | nil => exact split_of_notMem absent
    | cons next more =>
      rw [join_cons_of_ne_nil _ _ (by simp), split_append_cons absent]
      rw [ih (by simp) (fun p member => free p (by simp [member]))]

/-- No piece holds the separator. -/
theorem notMem_of_mem_split {separator : α} {text piece : List α}
    (member : piece ∈ split separator text) : separator ∉ piece := by
  induction text generalizing piece with
  | nil => simp_all [split]
  | cons c rest ih =>
    simp only [split] at member
    split at member
    · rcases List.mem_cons.1 member with rfl | later
      · simp
      · exact ih later
    · next different =>
      cases cut : split separator rest with
      | nil => exact absurd cut (split_ne_nil separator rest)
      | cons first others =>
        rw [cut] at member ih
        rcases List.mem_cons.1 member with rfl | later
        · intro inside
          rcases List.mem_cons.1 inside with equal | inside
          · exact different equal.symm
          · exact ih (List.mem_cons_self ..) inside
        · exact ih (List.mem_cons_of_mem _ later)

/-! ## Cutting at the last separator -/

/-- The texts before and after the last separator, if there is one. -/
def cutLast? (separator : α) : List α → Option (List α × List α)
  | [] => none
  | c :: rest =>
    match cutLast? separator rest with
    | some (before, after) => some (c :: before, after)
    | none => if c = separator then some ([], rest) else none

theorem cutLast?_eq_none_iff {separator : α} {text : List α} :
    cutLast? separator text = none ↔ separator ∉ text := by
  induction text with
  | nil => simp [cutLast?]
  | cons c rest ih =>
    simp only [cutLast?, List.mem_cons, not_or]
    cases cut : cutLast? separator rest with
    | some pair =>
      have present : ¬ separator ∉ rest := fun absent => by simp [ih.2 absent] at cut
      simp [present]
    | none =>
      have absent := ih.1 cut
      by_cases equal : c = separator
      · simp [equal]
      · simp [equal, absent, Ne.symm equal]

/-- The two parts around the separator are the text, and the second part has no separator. -/
theorem eq_of_cutLast? {separator : α} {text before after : List α}
    (cut : cutLast? separator text = some (before, after)) :
    text = before ++ separator :: after ∧ separator ∉ after := by
  induction text generalizing before with
  | nil => simp [cutLast?] at cut
  | cons c rest ih =>
    simp only [cutLast?] at cut
    cases inner : cutLast? separator rest with
    | some pair =>
      rw [inner] at cut
      simp only [Option.some.injEq, Prod.mk.injEq] at cut
      obtain ⟨rfl, rfl⟩ := cut
      have := ih inner
      exact ⟨by rw [List.cons_append, ← this.1], this.2⟩
    | none =>
      rw [inner] at cut
      simp only [Option.ite_none_right_eq_some, Option.some.injEq, Prod.mk.injEq] at cut
      obtain ⟨rfl, rfl, rfl⟩ := cut
      exact ⟨rfl, cutLast?_eq_none_iff.1 inner⟩

end Cutting

/-! ## What follows a fixed beginning -/

/-- What follows `beginning` in a text that begins with it. -/
def after? : (beginning text : Text) → Option Text
  | [], text => some text
  | _ :: _, [] => none
  | b :: beginning, c :: text => if b = c then after? beginning text else none

theorem after?_eq_some_iff {beginning text rest : Text} :
    after? beginning text = some rest ↔ text = beginning ++ rest := by
  induction beginning generalizing text with
  | nil => simp [after?]
  | cons b beginning ih =>
    cases text with
    | nil => simp [after?]
    | cons c text =>
      by_cases equal : b = c
      · simp [after?, equal, ih]
      · simp [after?, equal, Ne.symm equal]

@[simp]
theorem after?_append (beginning rest : Text) :
    after? beginning (beginning ++ rest) = some rest :=
  after?_eq_some_iff.2 rfl

/-- Does the text begin with an ASCII capital? -/
def startsUpper : Text → Bool
  | [] => false
  | c :: _ => c.isUpper

/-- The text as a string, for messages. -/
abbrev asString (text : Text) : String :=
  String.ofList text

end Text

end ClassMove
