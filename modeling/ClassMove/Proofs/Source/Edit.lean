import ClassMove.Proofs.Utf8
import ClassMove.Source.Edit

/-!
# Edits that leave lines apart

A gentle edit keeps a line, or puts another head before a tail of it.  What the head
replaces is free of replacement characters and does not reach the end of the line,
so the edit is carried out whatever octets the tail holds, the tail survives octet
by octet, and a file that was edited gently is cut into the edited lines again.
-/

namespace ClassMove

open Utf8

/-! ## Replacing the start of a line -/

/-- Can something else take the place of `front`, the start of a line that ends in `tail`? -/
structure Severed (line front tail : Text) : Prop where
  joined : line = front ++ tail
  sound : replacement ∉ front
  inside : ∃ start last, front = start ++ [last] ∧ last ≠ '\n'

theorem Severed.of_name {before name tail : Text} {p : Char → Bool}
    (sound : replacement ∉ before) (nonempty : name ≠ []) (named : ∀ c ∈ name, p c = true)
    (noReplacement : p replacement = false) (noNewline : p '\n' = false) :
    Severed (before ++ (name ++ tail)) (before ++ name) tail := by
  constructor
  · simp
  · intro member
    rcases List.mem_append.1 member with inBefore | inName
    · exact sound inBefore
    · rw [named _ inName] at noReplacement
      cases noReplacement
  · refine ⟨before ++ name.dropLast, name.getLast nonempty, ?_, ?_⟩
    · rw [List.append_assoc, List.dropLast_concat_getLast]
    · intro same
      have last := named _ (List.getLast_mem nonempty)
      rw [same, noNewline] at last
      cases last

/-- The octets in front of a tail are counted in the view. -/
theorem length_encode_sub (front tail : Text) :
    (encode (front ++ tail)).length - (encode tail).length = (encode front).length := by
  rw [encode_append, List.length_append, Nat.add_sub_cancel]

/-- A splice behind octets that encode a text is carried out. -/
theorem Edit.applied?_before_encode (front : Text) (rest : List UInt8) (head : Text) :
    (Edit.before (view (encode front ++ rest)) (view rest) head).applied? (encode front ++ rest) =
      some (encode head ++ rest) := by
  have shown : encode (view (encode front ++ rest)) = encode front ++ encode (view rest) := by
    rw [view_encode_append, encode_append]
  have length : (encode (view (encode front ++ rest))).length - (encode (view rest)).length =
      (encode front).length := by
    rw [view_encode_append, length_encode_sub]
  have fits : (encode front).length ≤ (encode front ++ rest).length := by
    rw [List.length_append]
    exact Nat.le_add_right ..
  have same : (encode front ++ rest).take (encode front).length =
      (encode (view (encode front ++ rest))).take (encode front).length := by
    rw [shown, List.take_left, List.take_left]
  simp only [Edit.before, Edit.applied?, length]
  rw [if_pos ⟨fits, same⟩, List.drop_left]

/-- A splice of a line that is severed is carried out. -/
theorem Edit.applied?_before {octets : List UInt8} {front tail : Text}
    (severed : Severed (view octets) front tail) (head : Text) :
    ∃ rest, octets = encode front ++ rest ∧ view rest = tail ∧
      (Edit.before (view octets) tail head).applied? octets = some (encode head ++ rest) := by
  rcases exists_rest_of_view_eq_append severed.joined severed.sound with ⟨rest, rfl, rfl⟩
  exact ⟨rest, rfl, rfl, Edit.applied?_before_encode front rest head⟩

/-- The text of a line with another start. -/
theorem view_ofEdit_before {octets : List UInt8} {front tail : Text}
    (severed : Severed (view octets) front tail) (head : Text) :
    view (EditedLine.ofEdit octets (.before (view octets) tail head)).octets = head ++ tail := by
  rcases Edit.applied?_before severed head with ⟨rest, -, shown, applied⟩
  rw [EditedLine.ofEdit, applied]
  show view (encode head ++ rest) = head ++ tail
  rw [view_encode_append, shown]

/-- Was a line given another head, in place of all up to and including its name?  What stood behind
the name kept its octets, whether or not they encode the tail that is shown. -/
def Renamed (old new : List UInt8) (name head tail : Text) : Prop :=
  ∃ start rest, old = encode (start ++ name) ++ rest ∧ new = encode head ++ rest ∧ view rest = tail

theorem renamed_ofEdit_before {octets : List UInt8} {start name tail : Text}
    (severed : Severed (view octets) (start ++ name) tail) (head : Text) :
    Renamed octets (EditedLine.ofEdit octets (.before (view octets) tail head)).octets name head
      tail := by
  rcases Edit.applied?_before severed head with ⟨rest, cut, shown, applied⟩
  exact ⟨start, rest, cut, by rw [EditedLine.ofEdit, applied], shown⟩

/-! ## Gentle edits -/

/-- An edit that keeps a line or replaces its start within the line. -/
inductive Edit.Gentle (line : Text) : Edit → Prop where
  | keep : Gentle line .keep
  | before {front tail : Text} (severed : Severed line front tail) (head : Text)
      (nonempty : head ≠ []) (plain : '\n' ∉ head) : Gentle line (.before line tail head)

/-- What a gentle edit makes of a line, seen from the octets that stay. -/
theorem Edit.Gentle.exists_rest {octets : List UInt8} {edit : Edit}
    (gentle : Gentle (view octets) edit) :
    (EditedLine.ofEdit octets edit).octets = octets ∨
      ∃ front head rest, octets = encode front ++ rest ∧
        (EditedLine.ofEdit octets edit).octets = encode head ++ rest ∧
        (∃ start last, front = start ++ [last] ∧ last ≠ '\n') ∧ head ≠ [] ∧ '\n' ∉ head := by
  cases gentle with
  | keep => exact .inl rfl
  | before severed head nonempty plain =>
    rcases Edit.applied?_before severed head with ⟨rest, cut, -, applied⟩
    exact .inr ⟨_, head, rest, cut, by rw [EditedLine.ofEdit, applied], severed.inside, nonempty,
      plain⟩

theorem encode_ne_nil {text : Text} (nonempty : text ≠ []) : encode text ≠ [] := by
  cases text with
  | nil => exact absurd rfl nonempty
  | cons c text =>
    rw [encode_cons]
    simp [String.utf8EncodeChar_ne_nil]

/-- A gentle edit leaves a line ended that was ended. -/
theorem Edit.Gentle.ended {body : List UInt8} {edit : Edit} (free : newline ∉ body)
    (gentle : Gentle (view (body ++ [newline])) edit) :
    ∃ other, (EditedLine.ofEdit (body ++ [newline]) edit).octets = other ++ [newline] ∧
      newline ∉ other := by
  rcases gentle.exists_rest with same | ⟨front, head, rest, cut, edited, ⟨start, last, rfl, inside⟩,
    -, plain⟩
  · exact ⟨body, same, free⟩
  · have final : (encode [last] ++ rest).getLast? = some newline := by
      have whole := congrArg List.getLast? cut
      rw [encode_append, List.append_assoc, List.getLast?_concat, List.getLast?_append] at whole
      cases found : (encode [last] ++ rest).getLast? with
      | none =>
        have empty := List.getLast?_eq_none_iff.1 found
        exact absurd (List.append_eq_nil_iff.1 empty).1 (encode_ne_nil (by simp))
      | some octet =>
        rw [found, Option.some_or] at whole
        exact whole.symm
    rcases List.eq_nil_or_concat rest with rfl | ⟨kept, octet, rfl⟩
    · -- the end of the line would be the last octet of a character that is no newline
      exfalso
      have member : newline ∈ encode [last] := by
        apply List.mem_of_getLast?
        simpa using final
      rw [plain_newline.mem_encode_iff, List.mem_singleton] at member
      exact inside member.symm
    · rw [List.concat_eq_append] at cut edited final
      have same : octet = newline := by simpa [← List.append_assoc] using final
      subst same
      have whole : body = encode (start ++ [last]) ++ kept := by
        rw [← List.append_assoc] at cut
        exact List.append_cancel_right cut
      refine ⟨encode head ++ kept, ?_, ?_⟩
      · rw [edited, List.append_assoc]
      · intro member
        rcases List.mem_append.1 member with inHead | inKept
        · exact plain (plain_newline.mem_encode_iff.1 inHead)
        · apply free
          rw [whole]
          exact List.mem_append_right _ inKept

theorem Edit.Gentle.unended {octets : List UInt8} {edit : Edit} (nonempty : octets ≠ [])
    (free : newline ∉ octets) (gentle : Gentle (view octets) edit) :
    (EditedLine.ofEdit octets edit).octets ≠ [] ∧
      newline ∉ (EditedLine.ofEdit octets edit).octets := by
  rcases gentle.exists_rest with same | ⟨front, head, rest, cut, edited, -, headed, plain⟩
  · rw [same]
    exact ⟨nonempty, free⟩
  · rw [edited]
    constructor
    · simp [encode_ne_nil headed]
    · intro member
      rcases List.mem_append.1 member with inHead | inRest
      · exact plain (plain_newline.mem_encode_iff.1 inHead)
      · apply free
        rw [cut]
        exact List.mem_append_right _ inRest

/-! ## Gentle editors -/

/-- An editor that answers every line with a gentle edit. -/
def Editor.Gentle {Memory : Type} (editor : Editor Memory) : Prop :=
  ∀ memory line, Edit.Gentle line (editor memory line).1

theorem wellCut_editLines {Memory : Type} {editor : Editor Memory} (gentle : editor.Gentle)
    {pieces : List (List UInt8)} (cut : WellCut pieces) (memory : Memory) :
    WellCut ((editLines editor memory pieces).map EditedLine.octets) := by
  induction cut generalizing memory with
  | nil => exact .nil
  | unended line nonempty free =>
    have kept := (gentle memory (view line)).unended nonempty free
    exact .unended _ kept.1 kept.2
  | cons body free cut ih =>
    rcases (gentle memory (view (body ++ [newline]))).ended free with ⟨other, same, otherFree⟩
    simp only [editLines, List.map_cons, same]
    exact .cons other otherFree (ih _)

/-- A file that was edited gently is cut into the edited lines. -/
theorem lines_revision {Memory : Type} {editor : Editor Memory} (gentle : editor.Gentle)
    (memory : Memory) (octets : List UInt8) :
    lines (Revision.ofOctets editor memory octets).octets =
      (editLines editor memory (lines octets)).map EditedLine.octets := by
  rw [Revision.octets, List.flatMap_def]
  exact lines_flatten (wellCut_editLines gentle (wellCut_lines octets) memory)

end ClassMove
