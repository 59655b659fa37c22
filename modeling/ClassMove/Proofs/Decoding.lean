import ClassMove.Proofs.Utf8

/-!
# Octets read in parts

Octets that are put together may be read part by part wherever no chunk reaches over
the seam.  Two seams are like that: the one behind the encoding of a text, and the one
in front of an octet that continues no character, such as the end of a line.  So a file
may be cut into lines before it is read: the views of its lines, one after another, are
the view of the file.

Octets encode a text exactly if no chunk of them is broken, and they begin with the
encoding of the start of their view exactly if no chunk of that start is broken.
-/

namespace ClassMove.Utf8

/-! ## Behind an encoding -/

/-- An encoded text is read as one chunk for each character, whatever follows it. -/
theorem decode_encode_append (text : Text) (rest : List UInt8) :
    decode (encode text ++ rest) =
      text.map (fun c => ⟨String.utf8EncodeChar c, some c⟩) ++ decode rest := by
  induction text with
  | nil => rfl
  | cons c text ih =>
    rw [encode_cons, List.append_assoc, decode_encodeChar_append, ih]
    rfl

/-- Octets begin with the encoding of what their view begins with exactly if no chunk of that
beginning is broken.  A broken chunk is never spelled like the replacement character that it is
shown as, or it would be read as one. -/
theorem complete_iff {octets : List UInt8} {front back : Text}
    (shown : view octets = front ++ back) :
    (∀ chunk ∈ (decode octets).take front.length, chunk.char? ≠ none) ↔
      encode front <+: octets := by
  constructor
  · intro complete
    rcases exists_rest_of_complete shown complete with ⟨rest, whole, -⟩
    exact ⟨rest, whole.symm⟩
  · rintro ⟨rest, rfl⟩ chunk member
    rw [decode_encode_append, List.take_left' (List.length_map ..)] at member
    rcases List.mem_map.1 member with ⟨c, -, rfl⟩
    simp

theorem view_eq_nil_iff {octets : List UInt8} : view octets = [] ↔ octets = [] := by
  cases octets with
  | nil => simp [view, decode]
  | cons first others =>
    obtain ⟨rest, -, cut⟩ := decode_cons first others
    simp [view, cut]

/-- Octets are valid exactly if they are the encoding of a text. -/
theorem isValid_iff {octets : List UInt8} :
    isValid octets = true ↔ ∃ text, octets = encode text := by
  constructor
  · intro valid
    have shown : view octets = view octets ++ [] := (List.append_nil _).symm
    have complete : ∀ chunk ∈ (decode octets).take (view octets).length, chunk.char? ≠ none := by
      intro chunk member
      exact Option.isSome_iff_ne_none.1 (List.all_eq_true.1 valid _ (List.mem_of_mem_take member))
    rcases exists_rest_of_complete shown complete with ⟨rest, whole, nothing⟩
    refine ⟨view octets, ?_⟩
    rw [view_eq_nil_iff.1 nothing, List.append_nil] at whole
    exact whole
  · rintro ⟨text, rfl⟩
    have chunks := decode_encode_append text []
    rw [List.append_nil] at chunks
    simp [isValid, chunks, decode]

/-! ## In front of an octet that continues nothing -/

/-- Do octets start with one that is part of no longer encoding, if they start at all? -/
def StartsPlain (octets : List UInt8) : Prop :=
  ∀ octet ∈ octets.head?, octet.toNat < 0x80

theorem Plain.starts {octet : UInt8} {c : Char} (plain : Plain octet c) (rest : List UInt8) :
    StartsPlain (octet :: rest) := by
  intro first member
  cases Option.mem_some.1 member
  exact plain.small

/-- What continues a character ends in front of an octet that continues nothing. -/
theorem continuation_append {low : UInt8} (least : 0x80 ≤ low.toNat) (more : Nat) (high : UInt8)
    (rest : List UInt8) {behind : List UInt8} (plain : StartsPlain behind) :
    continuation more low high (rest ++ behind) = continuation more low high rest := by
  induction rest generalizing more low high with
  | nil =>
    cases behind with
    | nil => rfl
    | cons octet others =>
      have small : octet.toNat < 0x80 := plain octet rfl
      cases more with
      | zero => rfl
      | succ more =>
        have outside : ¬ (low ≤ octet ∧ octet ≤ high) := by
          rw [UInt8.le_iff_toNat_le]
          omega
        simp only [List.nil_append, continuation]
        rw [if_neg outside]
  | cons octet rest ih =>
    cases more with
    | zero => rfl
    | succ more =>
      simp only [List.cons_append, continuation]
      rw [ih (by decide)]

theorem chunk_append (first : UInt8) (rest : List UInt8) {behind : List UInt8}
    (plain : StartsPlain behind) : chunk first (rest ++ behind) = chunk first rest := by
  simp only [chunk]
  cases announced : lead? first with
  | none => rfl
  | some lead =>
    have same : continuation lead.more lead.low lead.high (rest ++ behind) =
        continuation lead.more lead.low lead.high rest := by
      rcases lead?_cases announced with ⟨-, none⟩ | ⟨-, -, -, least, -⟩ | ⟨-, -, -, least, -⟩ |
        ⟨-, -, -, least, -⟩
      · rw [none, continuation_zero, continuation_zero]
      · exact continuation_append least _ _ _ plain
      · exact continuation_append least _ _ _ plain
      · exact continuation_append least _ _ _ plain
    simp only [same]

/-- Octets in front of one that continues nothing are read on their own. -/
theorem decode_append (front : List UInt8) {behind : List UInt8} (plain : StartsPlain behind) :
    decode (front ++ behind) = decode front ++ decode behind := by
  fun_induction decode front with
  | case1 => rfl
  | case2 first rest next ih =>
    have inside : next.octets.length - 1 ≤ rest.length := by
      have length := congrArg List.length (chunk_octets first rest)
      rw [List.length_cons, List.length_take] at length
      show (chunk first rest).octets.length - 1 ≤ rest.length
      omega
    rw [List.cons_append, decode, chunk_append first rest plain]
    rw [List.drop_append_of_le_length inside, ih]
    rfl

/-- A file is read beyond the end of a line as if it began there. -/
theorem decode_append_newline (body rest : List UInt8) :
    decode (body ++ newline :: rest) = decode (body ++ [newline]) ++ decode rest := by
  have ended : ∀ behind, decode (newline :: behind) = ⟨[newline], some '\n'⟩ :: decode behind :=
    fun behind => decode_encodeChar_append '\n' behind
  rw [decode_append body (plain_newline.starts rest), decode_append body (plain_newline.starts []),
    ended, ended, decode, List.append_assoc]
  rfl

/-! ## Lines -/

theorem flatMap_view_of_wellCut {pieces : List (List UInt8)} (cut : WellCut pieces) :
    pieces.flatMap view = view pieces.flatten := by
  induction cut with
  | nil => exact (view_eq_nil_iff.2 rfl).symm
  | unended line nonempty free => simp
  | @cons body free rest cut ih =>
    have joined : view ((body ++ [newline]) ++ rest.flatten) =
        view (body ++ [newline]) ++ view rest.flatten := by
      simp only [view]
      rw [List.append_assoc, List.singleton_append, decode_append_newline, List.map_append]
    rw [List.flatMap_cons, List.flatten_cons, joined, ih]

/-- The views of the lines of a file, one after another, are the view of the file. -/
theorem flatMap_view_lines (octets : List UInt8) : (lines octets).flatMap view = view octets := by
  rw [flatMap_view_of_wellCut (wellCut_lines octets), flatten_lines]

end ClassMove.Utf8
