import ClassMove.Text.Basic

/-!
# UTF-8, read leniently

A file is a list of octets.  Reading it as text cuts it into chunks: a chunk is
either the encoding of one character, or a stretch that no character begins with
and that is as long as a broken encoding can be.  The text view shows each broken
stretch as one replacement character.

The octets of the chunks, one after another, are the octets that were read
(`flatten_decode`), so nothing is lost by cutting.
-/

namespace ClassMove.Utf8

/-- The character shown in place of octets that encode nothing. -/
def replacement : Char := '\uFFFD'

/-- A stretch of octets, with the character it encodes unless it is broken. -/
structure Chunk where
  octets : List UInt8
  char? : Option Char
deriving DecidableEq

/-- The character that stands for the chunk in a text view. -/
def Chunk.view (chunk : Chunk) : Char :=
  chunk.char?.getD replacement

/-- What a first octet announces: how many octets follow, and the bounds of the next one. -/
structure Lead where
  more : Nat
  low : UInt8
  high : UInt8

/-- The announcement of a first octet, or none for an octet that begins no character. -/
def lead? (octet : UInt8) : Option Lead :=
  if octet < 0x80 then some ⟨0, 0x80, 0xBF⟩
  else if octet < 0xC2 then none
  else if octet < 0xE0 then some ⟨1, 0x80, 0xBF⟩
  else if octet = 0xE0 then some ⟨2, 0xA0, 0xBF⟩
  else if octet = 0xED then some ⟨2, 0x80, 0x9F⟩
  else if octet < 0xF0 then some ⟨2, 0x80, 0xBF⟩
  else if octet = 0xF0 then some ⟨3, 0x90, 0xBF⟩
  else if octet < 0xF4 then some ⟨3, 0x80, 0xBF⟩
  else if octet = 0xF4 then some ⟨3, 0x80, 0x8F⟩
  else none

/-- The following octets that continue a character: at most `more`, the first within its bounds. -/
def continuation (more : Nat) (low high : UInt8) : List UInt8 → List UInt8
  | [] => []
  | octet :: rest =>
    match more with
    | 0 => []
    | more + 1 =>
      if low ≤ octet ∧ octet ≤ high then octet :: continuation more 0x80 0xBF rest else []

/-- The code point of a complete encoding that announced `more` octets. -/
def codePoint (first : UInt8) (following : List UInt8) : Nat :=
  let bits :=
    match following.length with
    | 0 => first.toNat
    | 1 => first.toNat % 0x20
    | 2 => first.toNat % 0x10
    | _ => first.toNat % 0x08
  following.foldl (fun value octet => value * 0x40 + octet.toNat % 0x40) bits

/-- The chunk that begins with `first`. -/
def chunk (first : UInt8) (rest : List UInt8) : Chunk :=
  match lead? first with
  | none => ⟨[first], none⟩
  | some lead =>
    let following := continuation lead.more lead.low lead.high rest
    ⟨first :: following,
      if following.length = lead.more then some (Char.ofNat (codePoint first following)) else none⟩

theorem continuation_eq_take (more : Nat) (low high : UInt8) (rest : List UInt8) :
    continuation more low high rest =
      rest.take (continuation more low high rest).length := by
  induction rest generalizing more low high with
  | nil => simp [continuation]
  | cons octet rest ih =>
    cases more with
    | zero => simp [continuation]
    | succ more =>
      simp only [continuation]
      split
      · simp only [List.length_cons, List.take_succ_cons, List.cons.injEq, true_and]
        exact ih more 0x80 0xBF
      · simp

/-- A chunk takes its octets from the front. -/
theorem chunk_octets (first : UInt8) (rest : List UInt8) :
    (chunk first rest).octets =
      first :: rest.take ((chunk first rest).octets.length - 1) := by
  simp only [chunk]
  split
  · simp
  · next lead _ =>
    simp only [List.length_cons, Nat.add_sub_cancel, List.cons.injEq, true_and]
    exact continuation_eq_take _ _ _ _

/-- Cut octets into chunks. -/
def decode : List UInt8 → List Chunk
  | [] => []
  | first :: rest =>
    let next := chunk first rest
    next :: decode (rest.drop (next.octets.length - 1))
termination_by octets => octets.length
decreasing_by simp only [List.length_drop, List.length_cons]; omega

/-- The chunks hold every octet, in order. -/
@[simp]
theorem flatten_decode (octets : List UInt8) :
    (decode octets).flatMap Chunk.octets = octets := by
  fun_induction decode octets with
  | case1 => rfl
  | case2 first rest next ih =>
    have taken : next.octets = first :: rest.take (next.octets.length - 1) :=
      chunk_octets first rest
    rw [List.flatMap_cons, ih]
    generalize next.octets.length - 1 = count at taken ⊢
    rw [taken, List.cons_append, List.take_append_drop]

/-- The text view of octets: one character for each chunk. -/
def view (octets : List UInt8) : Text :=
  (decode octets).map Chunk.view

/-- Do the octets encode a text? -/
def isValid (octets : List UInt8) : Bool :=
  (decode octets).all (·.char?.isSome)

/-- The octets of a text. -/
def encode (text : Text) : List UInt8 :=
  text.flatMap String.utf8EncodeChar

/-- The text that the octets encode, if they encode one. -/
def text? (octets : List UInt8) : Option Text :=
  if isValid octets then some (view octets) else none

theorem encode_append (first second : Text) :
    encode (first ++ second) = encode first ++ encode second := by
  simp [encode]

/-! ## Lines -/

/-- The octet that ends a line. -/
def newline : UInt8 := 0x0A

/-- The lines of a file, each with the octet that ends it; the last one may lack it. -/
def lines : List UInt8 → List (List UInt8)
  | [] => []
  | octet :: rest =>
    if octet = newline then [octet] :: lines rest
    else
      match lines rest with
      | [] => [[octet]]
      | line :: others => (octet :: line) :: others

/-- The lines, one after another, are the file. -/
@[simp]
theorem flatten_lines (octets : List UInt8) : (lines octets).flatten = octets := by
  induction octets with
  | nil => rfl
  | cons octet rest ih =>
    simp only [lines]
    split
    · simp [ih]
    · cases cut : lines rest with
      | nil => rw [cut] at ih; simpa using ih
      | cons line others => rw [cut] at ih; simpa using ih

end ClassMove.Utf8
