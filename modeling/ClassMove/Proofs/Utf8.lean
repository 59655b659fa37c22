import ClassMove.Text.Utf8

/-!
# Reading back what was encoded

Lenient reading undoes encoding, whatever octets follow: each character is read as
the one chunk of its encoding.  In the other direction, octets that are read as a
character are the encoding of that character.  Together they say when the view of
octets can be trusted: up to the first replacement character, the octets are the
encoding of what the view shows.

An octet below 0x80 stands for one character, and is part of no other encoding.
The last section cuts files into lines.  Octets that are put together from lines
are cut into the same lines again.
-/

namespace ClassMove.Utf8

/-! ## Encodings as numbers -/

/-- The octets that encode a code point, as numbers. -/
def spelling (point : Nat) : List Nat :=
  if point ≤ 0x7F then [point]
  else if point ≤ 0x7FF then [point / 64 + 0xC0, point % 64 + 0x80]
  else if point ≤ 0xFFFF then [point / 4096 + 0xE0, point / 64 % 64 + 0x80, point % 64 + 0x80]
  else [point / 262144 + 0xF0, point / 4096 % 64 + 0x80, point / 64 % 64 + 0x80, point % 64 + 0x80]

theorem toNat_octet {number : Nat} (small : number < 256) :
    (UInt8.ofNat number).toNat = number := by
  simp [Nat.mod_eq_of_lt small]

theorem utf8EncodeChar_eq (c : Char) :
    String.utf8EncodeChar c = (spelling c.toNat).map UInt8.ofNat := by
  have valid : c.toNat.isValidChar := c.valid
  simp only [String.utf8EncodeChar, spelling, Char.toNat_val]
  generalize c.toNat = number at valid ⊢
  simp only [Nat.isValidChar] at valid
  split
  · rfl
  · split
    · rw [Nat.mod_eq_of_lt (by omega : number / 64 < 32)]
      rfl
    · split
      · rw [Nat.mod_eq_of_lt (by omega : number / 4096 < 16)]
        rfl
      · rw [Nat.mod_eq_of_lt (by omega : number / 262144 < 8)]
        rfl

theorem lt_of_mem_spelling {point number : Nat} (valid : point.isValidChar)
    (member : number ∈ spelling point) : number < 256 := by
  simp only [Nat.isValidChar] at valid
  simp only [spelling] at member
  grind

theorem utf8EncodeChar_ofNat {point : Nat} (valid : point.isValidChar) {octets : List UInt8}
    (spelled : spelling point = octets.map UInt8.toNat) :
    String.utf8EncodeChar (Char.ofNat point) = octets := by
  have number : (Char.ofNat point).toNat = point := by
    rw [Char.ofNat, dif_pos valid]
    rfl
  rw [utf8EncodeChar_eq, number, spelled, List.map_map]
  conv => rhs; rw [← List.map_id octets]
  apply List.map_congr_left
  intro octet _
  exact UInt8.ofNat_toNat

/-- Two octets are the encoding of the number that they are read as. -/
theorem spelling_two {first second : Nat} (above : 0xC2 ≤ first) (under : first < 0xE0)
    (low : 0x80 ≤ second) (high : second ≤ 0xBF) :
    spelling (first % 0x20 * 0x40 + second % 0x40) = [first, second] := by
  rw [spelling, if_neg (by omega), if_pos (by omega)]
  congr 2
  · omega
  · omega

theorem spelling_three {first second third : Nat} (above : 0xE0 ≤ first) (under : first < 0xF0)
    (low : 0x80 ≤ second) (least : first = 0xE0 → 0xA0 ≤ second) (high : second ≤ 0xBF)
    (thirdLow : 0x80 ≤ third) (thirdHigh : third ≤ 0xBF) :
    spelling ((first % 0x10 * 0x40 + second % 0x40) * 0x40 + third % 0x40) =
      [first, second, third] := by
  rw [spelling, if_neg (by omega), if_neg (by omega), if_pos (by omega)]
  congr 2
  · omega
  · omega
  · congr 1
    omega

theorem spelling_four {first second third fourth : Nat} (above : 0xF0 ≤ first)
    (under : first < 0xF5) (low : 0x80 ≤ second) (least : first = 0xF0 → 0x90 ≤ second)
    (high : second ≤ 0xBF) (thirdLow : 0x80 ≤ third) (thirdHigh : third ≤ 0xBF)
    (fourthLow : 0x80 ≤ fourth) (fourthHigh : fourth ≤ 0xBF) :
    spelling (((first % 0x08 * 0x40 + second % 0x40) * 0x40 + third % 0x40) * 0x40 +
      fourth % 0x40) = [first, second, third, fourth] := by
  rw [spelling, if_neg (by omega), if_neg (by omega), if_neg (by omega)]
  congr 2
  · omega
  · omega
  · congr 2
    · omega
    · omega

/-! ## First octets and those that follow -/

/-- The announcement of a first octet, by its number. -/
theorem lead?_eq (octet : UInt8) :
    lead? octet =
      if octet.toNat < 0x80 then some ⟨0, 0x80, 0xBF⟩
      else if octet.toNat < 0xC2 then none
      else if octet.toNat < 0xE0 then some ⟨1, 0x80, 0xBF⟩
      else if octet.toNat = 0xE0 then some ⟨2, 0xA0, 0xBF⟩
      else if octet.toNat = 0xED then some ⟨2, 0x80, 0x9F⟩
      else if octet.toNat < 0xF0 then some ⟨2, 0x80, 0xBF⟩
      else if octet.toNat = 0xF0 then some ⟨3, 0x90, 0xBF⟩
      else if octet.toNat < 0xF4 then some ⟨3, 0x80, 0xBF⟩
      else if octet.toNat = 0xF4 then some ⟨3, 0x80, 0x8F⟩
      else none := by
  simp only [lead?, UInt8.lt_iff_toNat_lt, ← UInt8.toNat_inj]
  rfl

theorem lead?_of_three {octet : UInt8} (above : 0xE0 ≤ octet.toNat)
    (under : octet.toNat < 0xF0) :
    lead? octet = some ⟨2, if octet.toNat = 0xE0 then 0xA0 else 0x80,
      if octet.toNat = 0xED then 0x9F else 0xBF⟩ := by
  rw [lead?_eq]
  generalize octet.toNat = number at above under ⊢
  grind

theorem lead?_of_four {octet : UInt8} (above : 0xF0 ≤ octet.toNat)
    (under : octet.toNat < 0xF5) :
    lead? octet = some ⟨3, if octet.toNat = 0xF0 then 0x90 else 0x80,
      if octet.toNat = 0xF4 then 0x8F else 0xBF⟩ := by
  rw [lead?_eq]
  generalize octet.toNat = number at above under ⊢
  grind

/-- What a first octet can announce, by its number. -/
theorem lead?_cases {octet : UInt8} {lead : Lead} (announced : lead? octet = some lead) :
    octet.toNat < 0x80 ∧ lead.more = 0 ∨
    0xC2 ≤ octet.toNat ∧ octet.toNat < 0xE0 ∧ lead.more = 1 ∧
      0x80 ≤ lead.low.toNat ∧ lead.high.toNat ≤ 0xBF ∨
    0xE0 ≤ octet.toNat ∧ octet.toNat < 0xF0 ∧ lead.more = 2 ∧
      0x80 ≤ lead.low.toNat ∧ (octet.toNat = 0xE0 → 0xA0 ≤ lead.low.toNat) ∧
      lead.high.toNat ≤ 0xBF ∧ (octet.toNat = 0xED → lead.high.toNat ≤ 0x9F) ∨
    0xF0 ≤ octet.toNat ∧ octet.toNat < 0xF5 ∧ lead.more = 3 ∧
      0x80 ≤ lead.low.toNat ∧ (octet.toNat = 0xF0 → 0x90 ≤ lead.low.toNat) ∧
      lead.high.toNat ≤ 0xBF ∧ (octet.toNat = 0xF4 → lead.high.toNat ≤ 0x8F) := by
  rw [lead?_eq] at announced
  generalize octet.toNat = number at announced ⊢
  repeat' split at announced
  all_goals cases announced
  all_goals grind

theorem continuation_zero (low high : UInt8) (rest : List UInt8) :
    continuation 0 low high rest = [] := by
  cases rest <;> rfl

/-- Reading goes on over an octet that is in bounds. -/
theorem continuation_ofNat {more number : Nat} {low high : UInt8} (rest : List UInt8)
    (small : number < 256) (above : low.toNat ≤ number) (under : number ≤ high.toNat) :
    continuation (more + 1) low high (UInt8.ofNat number :: rest) =
      UInt8.ofNat number :: continuation more 0x80 0xBF rest := by
  simp only [continuation, UInt8.le_iff_toNat_le, toNat_octet small]
  rw [if_pos ⟨above, under⟩]

theorem continuation_tail {more number : Nat} (rest : List UInt8) :
    continuation (more + 1) 0x80 0xBF (UInt8.ofNat (number % 64 + 0x80) :: rest) =
      UInt8.ofNat (number % 64 + 0x80) :: continuation more 0x80 0xBF rest := by
  apply continuation_ofNat
  · omega
  · exact Nat.le_add_left ..
  · show number % 64 + 0x80 ≤ 0xBF
    omega

/-- A continuation that is complete starts with an octet in bounds. -/
theorem continuation_complete {more : Nat} {low high : UInt8} {rest : List UInt8}
    (complete : (continuation (more + 1) low high rest).length = more + 1) :
    ∃ octet others, low.toNat ≤ octet.toNat ∧ octet.toNat ≤ high.toNat ∧
      continuation (more + 1) low high rest = octet :: continuation more 0x80 0xBF others ∧
      (continuation more 0x80 0xBF others).length = more := by
  cases rest with
  | nil => simp [continuation] at complete
  | cons octet others =>
    simp only [continuation] at complete ⊢
    split at complete
    · next bounds =>
      rw [if_pos bounds]
      exact ⟨octet, others, UInt8.le_iff_toNat_le.1 bounds.1, UInt8.le_iff_toNat_le.1 bounds.2,
        rfl, by simpa using complete⟩
    · simp at complete

/-! ## Chunks of encodings -/

/-- The number that an encoding is read as. -/
theorem codePoint_spelling {point first : Nat} {following : List Nat} (valid : point.isValidChar)
    (spelled : spelling point = first :: following) :
    codePoint (UInt8.ofNat first) (following.map UInt8.ofNat) = point := by
  simp only [Nat.isValidChar] at valid
  simp only [spelling] at spelled
  split at spelled
  · cases spelled
    exact toNat_octet (by omega)
  · split at spelled
    · cases spelled
      show (UInt8.ofNat _).toNat % 0x20 * 0x40 + (UInt8.ofNat _).toNat % 0x40 = point
      rw [toNat_octet (by omega), toNat_octet (by omega)]
      omega
    · split at spelled
      · cases spelled
        show ((UInt8.ofNat _).toNat % 0x10 * 0x40 + (UInt8.ofNat _).toNat % 0x40) * 0x40 +
          (UInt8.ofNat _).toNat % 0x40 = point
        rw [toNat_octet (by omega), toNat_octet (by omega), toNat_octet (by omega)]
        omega
      · cases spelled
        show (((UInt8.ofNat _).toNat % 0x08 * 0x40 + (UInt8.ofNat _).toNat % 0x40) * 0x40 +
          (UInt8.ofNat _).toNat % 0x40) * 0x40 + (UInt8.ofNat _).toNat % 0x40 = point
        rw [toNat_octet (by omega), toNat_octet (by omega), toNat_octet (by omega),
          toNat_octet (by omega)]
        omega

/-- The first octet of an encoding announces exactly the octets that follow it. -/
theorem continuation_spelling {point first : Nat} {following : List Nat}
    (valid : point.isValidChar) (spelled : spelling point = first :: following)
    (rest : List UInt8) :
    ∃ lead, lead? (UInt8.ofNat first) = some lead ∧ following.length = lead.more ∧
      continuation lead.more lead.low lead.high (following.map UInt8.ofNat ++ rest) =
        following.map UInt8.ofNat := by
  simp only [Nat.isValidChar] at valid
  simp only [spelling] at spelled
  split at spelled
  · cases spelled
    refine ⟨⟨0, 0x80, 0xBF⟩, ?_, rfl, continuation_zero ..⟩
    rw [lead?_eq, toNat_octet (by omega), if_pos (by omega)]
  · split at spelled
    · cases spelled
      refine ⟨⟨1, 0x80, 0xBF⟩, ?_, rfl, ?_⟩
      · rw [lead?_eq, toNat_octet (by omega), if_neg (by omega), if_neg (by omega),
          if_pos (by omega)]
      · simp only [List.map_cons, List.map_nil, List.cons_append, List.nil_append,
          continuation_tail, continuation_zero]
    · split at spelled
      · cases spelled
        -- The first octet narrows the range of the second one, and only of that.
        have number := toNat_octet (show point / 4096 + 0xE0 < 256 by omega)
        refine ⟨_, lead?_of_three (by omega) (by omega), rfl, ?_⟩
        rw [number]
        simp only [List.map_cons, List.map_nil, List.cons_append, List.nil_append]
        rw [continuation_ofNat _ (by omega), continuation_tail, continuation_zero]
        · split
          · show 0xA0 ≤ _; omega
          · show 0x80 ≤ _; omega
        · split
          · show _ ≤ 0x9F; omega
          · show _ ≤ 0xBF; omega
      · cases spelled
        have number := toNat_octet (show point / 262144 + 0xF0 < 256 by omega)
        refine ⟨_, lead?_of_four (by omega) (by omega), rfl, ?_⟩
        rw [number]
        simp only [List.map_cons, List.map_nil, List.cons_append, List.nil_append]
        rw [continuation_ofNat _ (by omega), continuation_tail, continuation_tail,
          continuation_zero]
        · split
          · show 0x90 ≤ _; omega
          · show 0x80 ≤ _; omega
        · split
          · show _ ≤ 0x8F; omega
          · show _ ≤ 0xBF; omega

/-- The encoding of a character is read as one chunk, whatever follows it. -/
theorem decode_encodeChar_append (c : Char) (rest : List UInt8) :
    decode (String.utf8EncodeChar c ++ rest) =
      ⟨String.utf8EncodeChar c, some c⟩ :: decode rest := by
  have valid : c.toNat.isValidChar := c.valid
  cases spelled : spelling c.toNat with
  | nil =>
    have nonempty := String.utf8EncodeChar_ne_nil (c := c)
    simp [utf8EncodeChar_eq, spelled] at nonempty
  | cons first following =>
    obtain ⟨lead, announced, length, continued⟩ := continuation_spelling valid spelled rest
    have read : chunk (UInt8.ofNat first) (following.map UInt8.ofNat ++ rest) =
        ⟨String.utf8EncodeChar c, some c⟩ := by
      simp only [chunk, announced, continued, List.length_map, length, ↓reduceIte,
        codePoint_spelling valid spelled, utf8EncodeChar_eq, spelled, List.map_cons]
      exact congrArg (Chunk.mk _ ∘ some) (Char.ofNat_toNat c)
    have encoded : String.utf8EncodeChar c ++ rest =
        UInt8.ofNat first :: (following.map UInt8.ofNat ++ rest) := by
      rw [utf8EncodeChar_eq, spelled]
      rfl
    rw [encoded, decode, read]
    simp [utf8EncodeChar_eq, spelled]

/-- Octets that are read as a character are its encoding. -/
theorem octets_of_chunk_char {first : UInt8} {rest : List UInt8} {c : Char}
    (complete : (chunk first rest).char? = some c) :
    (chunk first rest).octets = String.utf8EncodeChar c := by
  simp only [chunk] at complete ⊢
  cases announced : lead? first with
  | none => simp [announced] at complete
  | some lead =>
    simp only [announced] at complete ⊢
    split at complete
    · next length =>
      cases Option.some.inj complete
      symm
      -- One case for each number of octets that the first one announces.
      rcases lead?_cases announced with ⟨under, more⟩ | ⟨above, under, more, bounds⟩ |
        ⟨above, under, more, bounds⟩ | ⟨above, under, more, bounds⟩
      · rw [more, continuation_zero]
        refine utf8EncodeChar_ofNat (.inl ?_) ?_
        · show first.toNat < 0xD800
          omega
        · show spelling first.toNat = [first.toNat]
          rw [spelling, if_pos (by omega)]
      · rw [more] at length ⊢
        obtain ⟨second, others, low, high, same, length⟩ := continuation_complete length
        rw [same, continuation_zero]
        refine utf8EncodeChar_ofNat (.inl ?_)
          (spelling_two above under (by omega) (by omega))
        show first.toNat % 0x20 * 0x40 + second.toNat % 0x40 < 0xD800
        omega
      · rw [more] at length ⊢
        obtain ⟨second, others, low, high, same, length⟩ := continuation_complete length
        obtain ⟨third, others, thirdLow, thirdHigh, next, length⟩ := continuation_complete length
        rw [same, next, continuation_zero]
        refine utf8EncodeChar_ofNat ?_
          (spelling_three above under (by omega) (by omega) (by omega) thirdLow thirdHigh)
        show ((first.toNat % 0x10 * 0x40 + second.toNat % 0x40) * 0x40 +
          third.toNat % 0x40).isValidChar
        simp only [Nat.isValidChar]
        omega
      · rw [more] at length ⊢
        obtain ⟨second, others, low, high, same, length⟩ := continuation_complete length
        obtain ⟨third, others, thirdLow, thirdHigh, next, length⟩ := continuation_complete length
        obtain ⟨fourth, others, fourthLow, fourthHigh, last, length⟩ :=
          continuation_complete length
        rw [same, next, last, continuation_zero]
        refine utf8EncodeChar_ofNat ?_
          (spelling_four above under (by omega) (by omega) (by omega) thirdLow thirdHigh
            fourthLow fourthHigh)
        show (((first.toNat % 0x08 * 0x40 + second.toNat % 0x40) * 0x40 +
          third.toNat % 0x40) * 0x40 + fourth.toNat % 0x40).isValidChar
        simp only [Nat.isValidChar]
        omega
    · cases complete

/-! ## Views -/

/-- The first chunk is taken off the front. -/
theorem decode_cons (first : UInt8) (others : List UInt8) :
    ∃ rest, first :: others = (chunk first others).octets ++ rest ∧
      decode (first :: others) = chunk first others :: decode rest := by
  refine ⟨others.drop ((chunk first others).octets.length - 1), ?_, by rw [decode]⟩
  have taken := chunk_octets first others
  generalize (chunk first others).octets.length - 1 = count at taken ⊢
  rw [taken, List.cons_append, List.take_append_drop]

theorem encode_cons (c : Char) (text : Text) :
    encode (c :: text) = String.utf8EncodeChar c ++ encode text := by
  simp [encode]

/-- An encoded text is read back, whatever follows it. -/
theorem view_encode_append (text : Text) (rest : List UInt8) :
    view (encode text ++ rest) = text ++ view rest := by
  induction text with
  | nil => rfl
  | cons c text ih =>
    simp only [view] at ih ⊢
    rw [encode_cons, List.append_assoc, decode_encodeChar_append, List.map_cons, ih]
    rfl

/-- As far as no chunk is broken, octets are the encoding of their view. -/
theorem exists_rest_of_complete {octets : List UInt8} {front back : Text}
    (shown : view octets = front ++ back)
    (complete : ∀ chunk ∈ (decode octets).take front.length, chunk.char? ≠ none) :
    ∃ rest, octets = encode front ++ rest ∧ view rest = back := by
  induction front generalizing octets with
  | nil => exact ⟨octets, rfl, shown⟩
  | cons c front ih =>
    cases octets with
    | nil => simp [view, decode] at shown
    | cons first others =>
      obtain ⟨rest, taken, cut⟩ := decode_cons first others
      simp only [view, cut, List.map_cons, List.cons_append, List.cons.injEq] at shown
      rw [cut, List.length_cons, List.take_succ_cons] at complete
      have read : (chunk first others).char? = some c := by
        cases found : (chunk first others).char? with
        | none => exact absurd found (complete _ (List.mem_cons_self ..))
        | some d => simpa [Chunk.view, found] using shown.1
      obtain ⟨later, encoded, shownLater⟩ :=
        ih shown.2 fun chunk member => complete chunk (List.mem_cons_of_mem _ member)
      refine ⟨later, ?_, shownLater⟩
      rw [taken, octets_of_chunk_char read, encoded, encode_cons, List.append_assoc]

/-- Up to the first replacement character, octets are the encoding of their view. -/
theorem exists_rest_of_view_eq_append {octets : List UInt8} {front back : Text}
    (shown : view octets = front ++ back) (sound : replacement ∉ front) :
    ∃ rest, octets = encode front ++ rest ∧ view rest = back := by
  apply exists_rest_of_complete shown
  intro chunk member broken
  have views : ((decode octets).take front.length).map Chunk.view = front := by
    rw [List.map_take, ← view, shown, List.take_left]
  -- a broken chunk would be shown as a replacement character
  apply sound
  rw [← views]
  exact List.mem_map.2 ⟨chunk, member, by rw [Chunk.view, broken, Option.getD_none]⟩

/-! ## Octets that stand for a character -/

/-- Does the octet, on its own, encode the character? -/
structure Plain (octet : UInt8) (c : Char) : Prop where
  small : octet.toNat < 0x80
  same : c.toNat = octet.toNat

theorem plain_newline : Plain newline '\n' :=
  ⟨by decide, rfl⟩

namespace Plain

variable {octet : UInt8} {c : Char}

theorem encodeChar_eq (plain : Plain octet c) : String.utf8EncodeChar c = [octet] := by
  have short : c.toNat ≤ 0x7F := plain.same ▸ Nat.le_of_lt_succ plain.small
  rw [utf8EncodeChar_eq, spelling, if_pos short, plain.same, List.map_singleton, UInt8.ofNat_toNat]

/-- No longer encoding holds the octet. -/
theorem mem_encodeChar_iff (plain : Plain octet c) {other : Char} :
    octet ∈ String.utf8EncodeChar other ↔ other = c := by
  constructor
  · intro member
    rw [utf8EncodeChar_eq, List.mem_map] at member
    obtain ⟨number, spelled, same⟩ := member
    have number_eq : number = octet.toNat := by
      rw [← toNat_octet (lt_of_mem_spelling other.valid spelled), same]
    have small := plain.small
    have single : other.toNat = c.toNat := by
      rw [plain.same]
      simp only [spelling] at spelled
      grind
    exact Char.ext (UInt32.toNat_inj.1 single)
  · rintro rfl
    rw [plain.encodeChar_eq]
    exact List.mem_singleton.2 rfl

theorem mem_encode_iff (plain : Plain octet c) {text : Text} : octet ∈ encode text ↔ c ∈ text := by
  simp only [encode, List.mem_flatMap, plain.mem_encodeChar_iff]
  constructor
  · rintro ⟨c, member, rfl⟩
    exact member
  · intro member
    exact ⟨_, member, rfl⟩

end Plain

/-! ## Lines -/

/-- Is this how a file is cut into lines?  Only the last line may lack its end. -/
inductive WellCut : List (List UInt8) → Prop where
  | nil : WellCut []
  | unended (line : List UInt8) (nonempty : line ≠ []) (free : newline ∉ line) : WellCut [line]
  | cons (body : List UInt8) (free : newline ∉ body) {rest : List (List UInt8)}
      (cut : WellCut rest) : WellCut ((body ++ [newline]) :: rest)

theorem wellCut_lines (octets : List UInt8) : WellCut (lines octets) := by
  induction octets with
  | nil => exact .nil
  | cons octet rest ih =>
    simp only [lines]
    split
    · next same =>
      subst same
      exact .cons [] List.not_mem_nil ih
    · next different =>
      have free : newline ∉ [octet] := by simpa using Ne.symm different
      generalize lines rest = others at ih ⊢
      cases ih with
      | nil => exact .unended _ (by simp) free
      | unended line nonempty absent =>
        exact .unended _ (by simp) (by simpa [absent] using free)
      | cons body absent cut =>
        exact .cons (octet :: body) (by simpa [absent] using free) cut

theorem lines_of_free {line : List UInt8} (nonempty : line ≠ []) (free : newline ∉ line) :
    lines line = [line] := by
  induction line with
  | nil => exact absurd rfl nonempty
  | cons octet rest ih =>
    simp only [List.mem_cons, not_or] at free
    rw [lines, if_neg (Ne.symm free.1)]
    cases rest with
    | nil => rfl
    | cons next others => rw [ih (by simp) free.2]

theorem lines_append_newline {body : List UInt8} (free : newline ∉ body) (rest : List UInt8) :
    lines (body ++ newline :: rest) = (body ++ [newline]) :: lines rest := by
  induction body with
  | nil => simp [lines]
  | cons octet body ih =>
    simp only [List.mem_cons, not_or] at free
    rw [List.cons_append, lines, if_neg (Ne.symm free.1), ih free.2]
    rfl

/-- Lines that are put together are found again. -/
theorem lines_flatten {pieces : List (List UInt8)} (cut : WellCut pieces) :
    lines pieces.flatten = pieces := by
  induction cut with
  | nil => rfl
  | unended line nonempty free => simpa using lines_of_free nonempty free
  | cons body free cut ih =>
    rw [List.flatten_cons, List.append_assoc, List.singleton_append, lines_append_newline free, ih]

end ClassMove.Utf8
