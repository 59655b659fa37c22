import ClassMove.Text.Utf8

/-!
# File names

A file name is what a directory lists: octets, at least one, without a slash, and neither
`.` nor `..`.  The octets of a name need not encode a text.  Messages show a replacement
character for each stretch that encodes nothing, so two names may be shown alike.
-/

namespace ClassMove

/-- The octet that separates the pieces of a path. -/
def slash : UInt8 := 0x2F

/-- The octet in front of an extension. -/
def dot : UInt8 := 0x2E

/-- Can the octets be listed in a directory? -/
def isFileName (octets : List UInt8) : Bool :=
  octets != [] && octets != [dot] && octets != [dot, dot] && !octets.contains slash

theorem slash_notMem_of_isFileName {octets : List UInt8} (valid : isFileName octets = true) :
    slash ∉ octets := by
  simp only [isFileName, Bool.and_eq_true, Bool.not_eq_true', List.contains_eq_mem,
    decide_eq_false_iff_not] at valid
  exact valid.2

/-- A name in a directory. -/
@[ext]
structure FileName where
  octets : List UInt8
  valid : isFileName octets = true
deriving DecidableEq

namespace FileName

/-- The file name with these octets, if there is one. -/
def ofOctets? (octets : List UInt8) : Option FileName :=
  if valid : isFileName octets = true then some ⟨octets, valid⟩ else none

/-- The file name that a text spells, if it spells one. -/
def ofText? (text : Text) : Option FileName :=
  ofOctets? (Utf8.encode text)

@[simp]
theorem ofOctets?_octets (name : FileName) : ofOctets? name.octets = some name := by
  simp [ofOctets?, name.valid]

/-- The text that the name is shown as. -/
def text (name : FileName) : Text :=
  Utf8.view name.octets

/-- The text that the name encodes, if it encodes one. -/
def text? (name : FileName) : Option Text :=
  Utf8.text? name.octets

/-- Does the name encode one of the texts? -/
def isAmong (texts : List Text) (name : FileName) : Bool :=
  name.text?.any texts.contains

/-- Names are listed in the order of their octets. -/
def before (first second : FileName) : Bool :=
  decide (first.octets < second.octets)

theorem before_irrefl (name : FileName) : name.before name = false := by
  simp [before]

theorem before_trans {first second third : FileName}
    (left : first.before second = true) (right : second.before third = true) :
    first.before third = true := by
  simp only [before, decide_eq_true_eq] at *
  exact List.lt_trans left right

/-- Of two names that differ, one comes before the other. -/
theorem before_of_not_before {first second : FileName} (different : first ≠ second)
    (notBefore : first.before second ≠ true) : second.before first = true := by
  simp only [before, ne_eq, decide_eq_true_eq] at *
  rcases Std.lt_trichotomy first.octets second.octets with less | equal | greater
  · exact absurd less notBefore
  · exact absurd (FileName.ext equal) different
  · exact greater

/-- The longest name that a directory can list, in octets. -/
def maxOctets : Nat := 255

/-- Is the name too long to be listed? -/
def isTooLong (name : FileName) : Bool :=
  decide (maxOctets < name.octets.length)

/-- What follows the last dot, if it encodes a text.  A dot at the very start begins no
extension. -/
def extension? (name : FileName) : Option Text :=
  match Text.cutLast? dot name.octets with
  | some ([], _) => none
  | some (_, extension) => Utf8.text? extension
  | none => none

end FileName

end ClassMove
