import ClassMove.Path.Location
import ClassMove.Proofs.Decoding
import ClassMove.Proofs.Text

/-!
# Names and paths as texts

A text spells a path, and a path is shown as a text.  Slashes and dots are octets of their own
in every encoding, so a text may be cut before or after it is encoded, and a path may be shown
piece by piece.

What is shown of a path can always be read as a path again: every name in it is replaced by the
name that its text encodes.  That is the same name exactly if the name encodes a text at all.
-/

namespace ClassMove

/-! ## Separators -/

namespace Utf8

theorem view_encode (text : Text) : view (encode text) = text := by
  have whole := view_encode_append text []
  rwa [List.append_nil, view_eq_nil_iff.2 rfl, List.append_nil] at whole

theorem encode_injective {first second : Text} (same : encode first = encode second) :
    first = second := by
  rw [← view_encode first, same, view_encode]

theorem text?_eq_some_iff {octets : List UInt8} {text : Text} :
    text? octets = some text ↔ octets = encode text := by
  constructor
  · intro read
    simp only [text?, Option.ite_none_right_eq_some, Option.some.injEq] at read
    rcases isValid_iff.1 read.1 with ⟨encoded, rfl⟩
    rw [← read.2, view_encode]
  · rintro rfl
    rw [text?, if_pos (isValid_iff.2 ⟨text, rfl⟩), view_encode]

/-- Octets whose view has no replacement character encode their view. -/
theorem encode_view_of_notMem {octets : List UInt8} (sound : replacement ∉ view octets) :
    encode (view octets) = octets := by
  rcases exists_rest_of_view_eq_append (List.append_nil (view octets)).symm sound with
    ⟨rest, whole, nothing⟩
  rw [view_eq_nil_iff.1 nothing, List.append_nil] at whole
  exact whole.symm

theorem octets_of_mem_decode {octets : List UInt8} {chunk : Chunk} {c : Char}
    (member : chunk ∈ decode octets) (read : chunk.char? = some c) :
    chunk.octets = String.utf8EncodeChar c := by
  fun_induction decode octets with
  | case1 => cases member
  | case2 first rest next ih =>
    rcases List.mem_cons.1 member with rfl | later
    · exact octets_of_chunk_char read
    · exact ih later

namespace Plain

variable {octet : UInt8} {c : Char}

theorem encode_cons_eq (plain : Plain octet c) (text : Text) :
    encode (c :: text) = octet :: encode text := by
  rw [encode_cons, plain.encodeChar_eq]
  rfl

theorem view_append (plain : Plain octet c) (front back : List UInt8) :
    view (front ++ octet :: back) = view front ++ c :: view back := by
  have read : decode (octet :: back) = ⟨[octet], some c⟩ :: decode back := by
    have chunk := decode_encodeChar_append c back
    rwa [plain.encodeChar_eq] at chunk
  simp only [view]
  rw [decode_append front (plain.starts back), List.map_append, read]
  rfl

theorem ne_replacement (plain : Plain octet c) : c ≠ replacement := by
  rintro rfl
  exact absurd plain.small (plain.same ▸ by decide)

/-- The character is shown exactly if its octet is there. -/
theorem mem_view_iff (plain : Plain octet c) {octets : List UInt8} :
    c ∈ view octets ↔ octet ∈ octets := by
  constructor
  · intro member
    rcases List.mem_map.1 member with ⟨chunk, listed, viewed⟩
    cases read : chunk.char? with
    | none => exact absurd (by simpa [Chunk.view, read] using viewed.symm) plain.ne_replacement
    | some other =>
      have same : other = c := by simpa [Chunk.view, read] using viewed
      have inside : octet ∈ chunk.octets := by
        rw [octets_of_mem_decode listed read]
        exact plain.mem_encodeChar_iff.2 same
      rw [← flatten_decode octets]
      exact List.mem_flatMap.2 ⟨chunk, listed, inside⟩
  · intro member
    rcases List.append_of_mem member with ⟨front, back, rfl⟩
    rw [plain.view_append]
    exact List.mem_append_right _ (List.mem_cons_self ..)

/-- A text is cut at the same places before and after it is encoded. -/
theorem split_encode (plain : Plain octet c) (text : Text) :
    Text.split octet (encode text) = (Text.split c text).map encode := by
  induction text with
  | nil => rfl
  | cons first rest ih =>
    by_cases same : first = c
    · rw [same, plain.encode_cons_eq, Text.split, if_pos rfl, ih, Text.split, if_pos rfl]
      rfl
    · have free : octet ∉ String.utf8EncodeChar first := fun member =>
        same (plain.mem_encodeChar_iff.1 member)
      cases cut : Text.split c rest with
      | nil => exact absurd cut (Text.split_ne_nil c rest)
      | cons piece pieces =>
        rw [cut, List.map_cons] at ih
        rw [encode_cons, Text.split_append_of_notMem free ih, Text.split, if_neg same, cut]
        simp [encode_cons]

/-- Octets between separators are shown one by one. -/
theorem view_join (plain : Plain octet c) (pieces : List (List UInt8)) :
    view (Text.join octet pieces) = Text.join c (pieces.map view) := by
  induction pieces with
  | nil => exact view_eq_nil_iff.2 rfl
  | cons piece pieces ih =>
    cases pieces with
    | nil => rfl
    | cons next pieces =>
      rw [Text.join_cons_of_ne_nil _ _ (List.cons_ne_nil next pieces), plain.view_append, ih]
      rfl

theorem cutLast?_encode (plain : Plain octet c) (text : Text) :
    Text.cutLast? octet (encode text) = (Text.cutLast? c text).map (Prod.map encode encode) := by
  cases cut : Text.cutLast? c text with
  | none =>
    rw [Text.cutLast?_eq_none_iff] at cut
    rw [Text.cutLast?_eq_none_iff.2 fun member => cut (plain.mem_encode_iff.1 member)]
    rfl
  | some parts =>
    rcases parts with ⟨front, back⟩
    rcases Text.eq_of_cutLast? cut with ⟨rfl, free⟩
    rw [encode_append, plain.encode_cons_eq,
      Text.cutLast?_append fun member => free (plain.mem_encode_iff.1 member)]
    rfl

end Plain

end Utf8

theorem plain_slash : Utf8.Plain slash '/' :=
  ⟨by decide, rfl⟩

theorem plain_dot : Utf8.Plain dot '.' :=
  ⟨by decide, rfl⟩

/-! ## File names -/

/-- A text encodes a file name exactly if it is not empty, has no slash and is not made of one or
two dots only. -/
theorem isFileName_encode_iff {text : Text} :
    isFileName (Utf8.encode text) = true ↔
      text ≠ [] ∧ text ≠ ['.'] ∧ text ≠ ['.', '.'] ∧ '/' ∉ text := by
  have encoded : ∀ other : Text, Utf8.encode text = Utf8.encode other ↔ text = other :=
    fun other => ⟨Utf8.encode_injective, fun same => by rw [same]⟩
  have none := encoded []
  have one := encoded ['.']
  have two := encoded ['.', '.']
  rw [plain_dot.encode_cons_eq] at one two
  rw [plain_dot.encode_cons_eq] at two
  simp only [isFileName, Bool.and_eq_true, bne_iff_ne, ne_eq, Bool.not_eq_true',
    List.contains_eq_mem, decide_eq_false_iff_not, plain_slash.mem_encode_iff]
  rw [and_assoc, and_assoc]
  exact and_congr (not_congr none) (and_congr (not_congr one) (and_congr (not_congr two) Iff.rfl))

namespace FileName

/-- Does the name encode a text? -/
def IsText (name : FileName) : Prop :=
  ∃ text, name.octets = Utf8.encode text

theorem text?_eq_some_iff {name : FileName} {text : Text} :
    name.text? = some text ↔ name.octets = Utf8.encode text :=
  Utf8.text?_eq_some_iff

theorem isSome_text?_iff {name : FileName} : name.text?.isSome = true ↔ name.IsText := by
  simp [Option.isSome_iff_exists, text?_eq_some_iff, IsText]

instance (name : FileName) : Decidable name.IsText :=
  decidable_of_iff _ isSome_text?_iff

theorem text_of_octets {name : FileName} {text : Text} (same : name.octets = Utf8.encode text) :
    name.text = text := by
  rw [FileName.text, same, Utf8.view_encode]

theorem IsText.octets_eq {name : FileName} (encodes : name.IsText) :
    name.octets = Utf8.encode name.text := by
  rcases encodes with ⟨text, same⟩
  rw [text_of_octets same, same]

theorem isText_of_notMem {name : FileName} (sound : Utf8.replacement ∉ name.text) : name.IsText :=
  ⟨name.text, (Utf8.encode_view_of_notMem sound).symm⟩

theorem IsText.eq_of_text {first second : FileName} (encodes : first.IsText)
    (other : second.IsText) (same : first.text = second.text) : first = second :=
  FileName.ext (by rw [encodes.octets_eq, same, other.octets_eq])

theorem eq_of_map_text {first second : List FileName} (encode : ∀ name ∈ first, name.IsText)
    (alsoEncode : ∀ name ∈ second, name.IsText) (same : first.map text = second.map text) :
    first = second := by
  induction first generalizing second with
  | nil => exact (List.map_eq_nil_iff.1 same.symm).symm
  | cons name first ih =>
    cases second with
    | nil => cases same
    | cons other second =>
      rw [List.forall_mem_cons] at encode alsoEncode
      rw [List.map_cons, List.map_cons, List.cons.injEq] at same
      rw [encode.1.eq_of_text alsoEncode.1 same.1, ih encode.2 alsoEncode.2 same.2]

theorem isAmong_iff {texts : List Text} {name : FileName} :
    name.isAmong texts = true ↔ ∃ text ∈ texts, name.octets = Utf8.encode text := by
  simp [isAmong, Option.any_eq_true, text?_eq_some_iff, and_comm]

theorem extension?_of_octets {name : FileName} {stem extension : Text} (nonempty : stem ≠ [])
    (free : '.' ∉ extension) (same : name.octets = Utf8.encode (stem ++ '.' :: extension)) :
    name.extension? = some extension := by
  have behind : Utf8.text? (Utf8.encode extension) = some extension :=
    Utf8.text?_eq_some_iff.2 rfl
  have before : Utf8.encode stem ≠ [] := fun empty => nonempty (Utf8.encode_injective empty)
  rw [extension?, same, plain_dot.cutLast?_encode, Text.cutLast?_append free, Option.map_some,
    Prod.map_apply]
  split
  · next cut => exact absurd (congrArg Prod.fst (Option.some.inj cut)) before
  · next cut =>
    cases cut
    exact behind
  · next cut => cases cut

theorem text_of_extension? {name : FileName} {text extension : Text}
    (same : name.octets = Utf8.encode text) (found : name.extension? = some extension) :
    ∃ stem, stem ≠ [] ∧ '.' ∉ extension ∧ text = stem ++ '.' :: extension := by
  rw [extension?, same, plain_dot.cutLast?_encode] at found
  cases cut : Text.cutLast? '.' text with
  | none =>
    rw [cut] at found
    cases found
  | some parts =>
    rcases parts with ⟨stem, last⟩
    rcases Text.eq_of_cutLast? cut with ⟨rfl, free⟩
    rw [cut, Option.map_some, Prod.map_apply] at found
    split at found
    · cases found
    · next front back notEmpty parts =>
      cases parts
      cases Utf8.encode_injective (Utf8.text?_eq_some_iff.1 found)
      refine ⟨stem, ?_, free, rfl⟩
      rintro rfl
      exact notEmpty rfl
    · cases found

theorem isAmong_eq_false_iff {texts : List Text} {name : FileName} :
    name.isAmong texts = false ↔ ∀ text ∈ texts, name.octets ≠ Utf8.encode text := by
  rw [← Bool.not_eq_true, isAmong_iff]
  simp

/-- What a name is shown as is the text of a name. -/
theorem isFileName_encode_text (name : FileName) : isFileName (Utf8.encode name.text) = true := by
  have valid := name.valid
  simp only [isFileName, Bool.and_eq_true, bne_iff_ne, ne_eq, Bool.not_eq_true',
    List.contains_eq_mem, decide_eq_false_iff_not] at valid
  rcases valid with ⟨⟨⟨nonempty, notOne⟩, notTwo⟩, noSlash⟩
  have encodes : ∀ shown, Utf8.replacement ∉ shown → name.text = shown →
      name.octets = Utf8.encode shown := by
    intro shown sound same
    rw [← same] at sound ⊢
    exact (isText_of_notMem sound).octets_eq
  refine isFileName_encode_iff.2 ⟨?_, ?_, ?_, ?_⟩
  · exact fun empty => nonempty (Utf8.view_eq_nil_iff.1 empty)
  · exact fun same => notOne (encodes _ (by decide) same)
  · exact fun same => notTwo (encodes _ (by decide) same)
  · exact fun member => noSlash (plain_slash.mem_view_iff.1 member)

/-- The name that is read where a name is shown. -/
def reread (name : FileName) : FileName :=
  ⟨Utf8.encode name.text, name.isFileName_encode_text⟩

theorem reread_eq_self_iff {name : FileName} : name.reread = name ↔ name.IsText := by
  constructor
  · intro same
    exact ⟨name.text, (congrArg octets same).symm⟩
  · intro encodes
    exact FileName.ext encodes.octets_eq.symm

end FileName

/-! ## Paths -/

namespace Piece

/-- The piece that a text spells. -/
def ofText (text : Text) : Piece :=
  ofOctets (Utf8.encode text)

/-- The piece that is read where a piece is shown. -/
def reread : Piece → Piece
  | .down name => .down name.reread
  | piece => piece

theorem ofText_view_octets (piece : Piece) : ofText (Utf8.view piece.octets) = piece.reread := by
  have shown : ∀ text, Utf8.view (Utf8.encode text) = text := Utf8.view_encode
  cases piece with
  | empty => exact congrArg ofText (shown [])
  | here => exact congrArg ofText (shown ['.'])
  | up => exact congrArg ofText (shown ['.', '.'])
  | down name => exact ofOctets_octets (.down name.reread)

end Piece

namespace Path

/-- The path that is read where a path is shown. -/
def reread (path : Path) : Path :=
  ⟨path.pieces.map Piece.reread⟩

theorem ofText_eq (text : Text) : ofText text = ⟨(Text.split '/' text).map Piece.ofText⟩ := by
  rw [ofText, ofOctets, plain_slash.split_encode, List.map_map]
  rfl

/-- A path shows the text that it was read from. -/
@[simp]
theorem text_ofText (text : Text) : (ofText text).text = text := by
  rw [Path.text, ofText, octets_ofOctets, Utf8.view_encode]

theorem display_ofString (spelling : String) : (ofString spelling).display = spelling := by
  rw [display, ofString, text_ofText, Text.asString, String.ofList_toList]

/-- What is shown of a path with at least one piece, read as a path. -/
theorem ofText_text {path : Path} (nonempty : path.pieces ≠ []) :
    ofText path.text = path.reread := by
  have free : ∀ text ∈ (path.pieces.map Piece.octets).map Utf8.view, '/' ∉ text := by
    intro text member
    rcases List.mem_map.1 member with ⟨octets, listed, rfl⟩
    rcases List.mem_map.1 listed with ⟨piece, -, rfl⟩
    exact fun inside => piece.slash_notMem_octets (plain_slash.mem_view_iff.1 inside)
  rw [Path.text, Path.octets, plain_slash.view_join, ofText_eq,
    Text.split_join (by simpa using nonempty) free, List.map_map, List.map_map, reread]
  congr 1
  apply List.map_congr_left
  intro piece _
  exact piece.ofText_view_octets

theorem text_map_down (names : List FileName) :
    (Path.mk (names.map .down)).text = Text.join '/' (names.map FileName.text) := by
  rw [Path.text, Path.octets, plain_slash.view_join, List.map_map, List.map_map]
  rfl

/-- Does every name in the path encode a text? -/
def IsText (path : Path) : Prop :=
  ∀ name, Piece.down name ∈ path.pieces → name.IsText

theorem reread_of_isText {path : Path} (encodes : path.IsText) : path.reread = path := by
  rcases path with ⟨pieces⟩
  rw [reread]
  congr 1
  conv => rhs; rw [← List.map_id pieces]
  apply List.map_congr_left
  intro piece member
  cases piece with
  | down name => exact congrArg Piece.down (FileName.reread_eq_self_iff.2 (encodes name member))
  | _ => rfl

end Path

end ClassMove
