import ClassMove.Proofs.Line.Import

/-!
# Names taken apart by offset

A dotted text is taken apart into a class and what follows it by putting its segments
together again.  The same parts are found by counting: the octets of the segments up to the
class and of the dots between them are an offset, and the text is cut there.  An import is
read in this way too, with a cut at its last dot before the class is looked for.

A cut may fail: an offset may lie behind the end of a text, or inside a character that has
several octets.  This never happens here, for any text.  Each offset that is counted lies
between two characters, and both ways give the same class, the same rest and the same failures.
-/

namespace ClassMove

/-! ## Cutting at an offset -/

namespace Text

/-- How many octets the encoding of a text has. -/
def octets (text : Text) : Nat :=
  text.asString.utf8ByteSize

/-- Does the offset lie inside the text, on the boundary of a character? -/
def IsOffset (text : Text) (offset : Nat) : Prop :=
  String.Pos.Raw.IsValid text.asString ⟨offset⟩

/-- The parts before and after an offset.  There are none if the offset lies outside the text or
inside a character. -/
def cutAt? (text : Text) (offset : Nat) : Option (Text × Text) :=
  (text.asString.pos? ⟨offset⟩).map fun pos =>
    ((text.asString.sliceTo pos).copy.toList, (text.asString.sliceFrom pos).copy.toList)

@[simp]
theorem octets_append (front back : Text) :
    (front ++ back).octets = front.octets + back.octets := by
  simp [octets]

theorem octets_cons (c : Char) (text : Text) :
    octets (c :: text) = c.utf8Size + text.octets := by
  rw [← List.singleton_append, octets_append]
  simp [octets]

theorem pos?_offset {text : Text} (pos : text.asString.Pos) :
    text.asString.pos? pos.offset = some pos := by
  have valid : String.Pos.Raw.isValidForSlice text.asString.toSlice pos.offset = true :=
    String.Pos.Raw.isValidForSlice_eq_true_iff.2 pos.isValid.toSlice
  rw [String.pos?, String.Slice.pos?, dif_pos valid]
  rfl

/-- A text is cut between two parts at the number of octets of the first one. -/
theorem cutAt?_append (front back : Text) :
    (front ++ back).cutAt? front.octets = some (front, back) := by
  have splits := String.Pos.splits_ofEqAppend (@String.ofList_append front back)
  have found := pos?_offset (String.Pos.ofEqAppend (@String.ofList_append front back))
  rw [splits.offset_eq_rawEndPos] at found
  have counted : (front ++ back).asString.pos? ⟨front.octets⟩ = _ := found
  rw [cutAt?, counted, Option.map_some, splits.copy_sliceTo_eq, splits.copy_sliceFrom_eq,
    String.toList_ofList, String.toList_ofList]

/-- A cut fails exactly where there is no offset. -/
theorem isSome_cutAt?_iff {text : Text} {offset : Nat} :
    (text.cutAt? offset).isSome = true ↔ text.IsOffset offset := by
  simp [cutAt?, IsOffset, String.pos?, String.Slice.pos?]

theorem isOffset_append (front back : Text) : (front ++ back).IsOffset front.octets := by
  rw [← isSome_cutAt?_iff, cutAt?_append]
  rfl

/-- The offset of the last separator, if there is one. -/
def lastOffset? (separator : Char) : Text → Option Nat
  | [] => none
  | c :: rest =>
    match lastOffset? separator rest with
    | some offset => some (c.utf8Size + offset)
    | none => if c = separator then some 0 else none

/-- The last separator stands behind the octets of the text before it. -/
theorem lastOffset?_eq (separator : Char) (text : Text) :
    lastOffset? separator text = (cutLast? separator text).map fun cut => octets cut.1 := by
  induction text with
  | nil => rfl
  | cons c rest ih =>
    simp only [lastOffset?, cutLast?, ih]
    cases cutLast? separator rest with
    | some cut => simp [octets_cons]
    | none =>
      by_cases same : c = separator
      · simp [same, octets]
      · simp [same]

/-- How many octets texts have together. -/
def totalOctets : List Text → Nat
  | [] => 0
  | text :: texts => text.octets + totalOctets texts

/-- Joined pieces have the octets of all the pieces, and one for each dot between them. -/
theorem octets_join (piece : Text) (pieces : List Text) :
    octets (join '.' (piece :: pieces)) = totalOctets (piece :: pieces) + pieces.length := by
  induction pieces generalizing piece with
  | nil => simp [join, totalOctets]
  | cons next pieces ih =>
    have dot : Char.utf8Size '.' = 1 := rfl
    rw [join_cons_of_ne_nil _ _ (by simp), octets_append, octets_cons, ih, dot]
    simp only [totalOctets, List.length_cons]
    omega

end Text

/-! ## What follows a class -/

/-- May the text follow a class?  It is empty or starts with a dot, and no segment of it starts with
a capital. -/
structure IsMember (text : Text) : Prop where
  dotted : text = [] ∨ text.head? = some '.'
  lower : ∀ segment ∈ Text.split '.' text, Text.startsUpper segment = false

/-- What may follow a class is put together from segments with a dot before each of them. -/
theorem isMember_iff {text : Text} :
    IsMember text ↔ ∃ pieces : List Text, text = pieces.flatMap ('.' :: ·) ∧
      ∀ piece ∈ pieces, '.' ∉ piece ∧ piece.startsUpper = false := by
  constructor
  · rintro ⟨dotted, lower⟩
    cases text with
    | nil => exact ⟨[], rfl, by simp⟩
    | cons c rest =>
      have dot : c = '.' := by simpa using dotted
      subst dot
      have cut : Text.split '.' ('.' :: rest) = [] :: Text.split '.' rest := by simp [Text.split]
      rw [cut] at lower
      refine ⟨Text.split '.' rest, ?_, ?_⟩
      · cases pieces : Text.split '.' rest with
        | nil => exact absurd pieces (Text.split_ne_nil '.' rest)
        | cons piece pieces' =>
          rw [List.flatMap_cons, List.cons_append, ← Text.join_cons_eq_flatMap, ← pieces,
            Text.join_split]
      · intro piece member
        exact ⟨Text.notMem_of_mem_split member, lower piece (List.mem_cons_of_mem _ member)⟩
  · rintro ⟨pieces, rfl, lower⟩
    constructor
    · cases pieces with
      | nil => exact .inl rfl
      | cons piece pieces => exact .inr rfl
    · have cut := Text.split_append_flatMap (fun piece member => (lower piece member).1) []
      rw [List.nil_append] at cut
      intro segment member
      rw [cut] at member
      rcases List.mem_append.1 member with first | later
      · cases List.mem_singleton.1 first
        rfl
      · exact (lower segment later).2

namespace ClassName

theorem splitMember_eq_ok_iff_isMember {dotted rest : Text} {name : ClassName} :
    splitMember dotted = .ok (name, rest) ↔
      name.qualified ++ rest = dotted ∧ name.simple.startsUpper = true ∧ IsMember rest := by
  rw [splitMember_eq_ok_iff, isMember_iff, eq_comm]

/-! ## Dotted texts by offset -/

/-- Where the class ends in a dotted text: behind the octets of the segments up to its own, and of
a dot before each but the first. -/
def classEnd (before : List Text) (simple : Text) : Nat :=
  Text.totalOctets (before ++ [simple]) + before.length

/-- Take a dotted text apart by cutting it where the class ends.  There is no answer if the text
cannot be cut there. -/
def splitMemberAt? (dotted : Text) : Option (Except Failure (ClassName × Text)) :=
  match pickClass (Text.split '.' dotted) with
  | none => some (.error (.of (.invalidName dotted.asString none)))
  | some (before, simple, _) =>
    match ofParts (Text.join '.' before) simple with
    | .error failure => some (.error failure)
    | .ok name =>
      (dotted.cutAt? (classEnd before simple)).map fun parts => .ok (name, parts.2)

theorem classEnd_eq (before : List Text) (simple : Text) :
    classEnd before simple = Text.octets (Text.join '.' (before ++ [simple])) := by
  cases before with
  | nil => simp [classEnd, Text.join, Text.totalOctets]
  | cons piece before =>
    rw [List.cons_append, Text.octets_join]
    simp [classEnd]

theorem eq_of_pickClass {dotted simple : Text} {before after : List Text}
    (picked : pickClass (Text.split '.' dotted) = some (before, simple, after)) :
    dotted = Text.join '.' (before ++ [simple]) ++ after.flatMap ('.' :: ·) := by
  rcases pickClass_eq_some_iff.1 picked with ⟨cut, -, -⟩
  rw [← Text.join_append '.' (by simp), List.append_assoc, List.singleton_append, ← cut,
    Text.join_split]

/-- Cutting a dotted text by offset is sound: the offset lies on a boundary, and the parts are those
that the segments make. -/
structure CutsByOffset (dotted : Text) : Prop where
  inside : ∀ before simple after,
    pickClass (Text.split '.' dotted) = some (before, simple, after) →
      dotted.IsOffset (classEnd before simple)
  agrees : splitMemberAt? dotted = some (splitMember dotted)

theorem cutsByOffset (dotted : Text) : CutsByOffset dotted where
  inside := by
    intro before simple after picked
    rw [eq_of_pickClass picked, classEnd_eq]
    exact Text.isOffset_append _ _
  agrees := by
    simp only [splitMemberAt?, splitMember]
    cases picked : pickClass (Text.split '.' dotted) with
    | none => rfl
    | some parts =>
      rcases parts with ⟨before, simple, after⟩
      have cut : dotted.cutAt? (classEnd before simple) =
          some (Text.join '.' (before ++ [simple]), after.flatMap ('.' :: ·)) := by
        rw [eq_of_pickClass picked, classEnd_eq, Text.cutAt?_append]
      cases built : ofParts (Text.join '.' before) simple with
      | error failure => simp [built, bind, Except.bind]
      | ok name => simp [built, cut, bind, Except.bind]

end ClassName

/-! ## Imports by offset -/

namespace ImportLine

/-- What an import may take of a class.  A static import takes a member, which may start with a
capital. -/
def Takes (isStatic : Bool) (suffix : Text) : Prop :=
  if isStatic then
    ∃ rest member, suffix = rest ++ '.' :: member ∧ IsMember rest ∧ '.' ∉ member
  else IsMember suffix

theorem Takes.ne_nil {suffix : Text} (takes : Takes true suffix) : suffix ≠ [] := by
  rcases takes with ⟨rest, member, rfl, -, -⟩
  simp

theorem owner_of_not_static {line : ImportLine} (static : line.isStatic = false) :
    line.owner = (line.target, []) := by
  simp [owner, static]

/-- The owner of a static import is what stands before the last dot of the target. -/
theorem owner_eq_iff {line : ImportLine} (static : line.isStatic = true) {front member : Text} :
    line.owner = (front, '.' :: member) ↔
      line.target = front ++ '.' :: member ∧ '.' ∉ member := by
  constructor
  · intro owned
    simp only [owner, static, ↓reduceIte] at owned
    split at owned
    · next before last cut =>
      cases owned
      exact Text.eq_of_cutLast? cut
    · cases owned
  · rintro ⟨whole, free⟩
    simp [owner, static, whole, Text.cutLast?_append free]

theorem exists_member_of_dot {line : ImportLine} (static : line.isStatic = true)
    (dotted : '.' ∈ line.target) : ∃ front member, line.owner = (front, '.' :: member) := by
  simp only [owner, static, ↓reduceIte]
  cases cut : Text.cutLast? '.' line.target with
  | none => exact absurd dotted (Text.cutLast?_eq_none_iff.1 cut)
  | some parts => exact ⟨parts.1, parts.2, rfl⟩

theorem dot_mem_of_importedClass {line : ImportLine} {name : ClassName} {suffix : Text}
    (imported : line.importedClass = .ok (name, suffix)) : '.' ∈ line.target := by
  rw [(exists_pieces_of_importedClass imported).1]
  simp [ClassName.qualified]

/-- A class is imported exactly when the target is its qualified name with something behind it that
an import may take, and its simple name starts with a capital. -/
theorem importedClass_eq_ok_iff_takes {line : ImportLine} {name : ClassName} {suffix : Text} :
    line.importedClass = .ok (name, suffix) ↔
      line.target = name.qualified ++ suffix ∧ name.simple.startsUpper = true ∧
        Takes line.isStatic suffix := by
  cases static : line.isStatic with
  | false =>
    simp only [importedClass_eq_ok_iff, owner_of_not_static static,
      ClassName.splitMember_eq_ok_iff_isMember, List.append_nil, exists_eq_right']
    rw [eq_comm]
    rfl
  | true =>
    constructor
    · intro imported
      rcases exists_member_of_dot static (dot_mem_of_importedClass imported) with
        ⟨front, member, owned⟩
      rcases importedClass_eq_ok_iff.1 imported with ⟨rest, split, rfl⟩
      rw [owned] at split
      rcases ClassName.splitMember_eq_ok_iff_isMember.1 split with ⟨rfl, upper, isMember⟩
      rcases (owner_eq_iff static).1 owned with ⟨whole, free⟩
      refine ⟨?_, upper, rest, member, ?_, isMember, free⟩
      · rw [whole, owned, List.append_assoc]
      · rw [owned]
    · rintro ⟨whole, upper, rest, member, rfl, isMember, free⟩
      rw [← List.append_assoc] at whole
      have owned := (owner_eq_iff static).2 ⟨whole, free⟩
      refine importedClass_eq_ok_iff.2 ⟨rest, ?_, ?_⟩
      · rw [owned]
        exact ClassName.splitMember_eq_ok_iff_isMember.2 ⟨rfl, upper, isMember⟩
      · rw [owned]

/-- The owner of what is imported, found by cutting the target of a static import at its last
dot. -/
def ownerAt? (line : ImportLine) : Option Text :=
  match line.isStatic, Text.lastOffset? '.' line.target with
  | true, some dot => (line.target.cutAt? dot).map Prod.fst
  | _, _ => some line.target

/-- The class that is imported, found in the owner, and the target from where the class ends.  There
is no answer if a text cannot be cut, or if more is left of the owner than it has. -/
def importedClassAt? (line : ImportLine) : Option (Except Failure (ClassName × Text)) := do
  let owner ← line.ownerAt?
  match ← ClassName.splitMemberAt? owner with
  | .error failure => some (.error failure)
  | .ok (name, rest) =>
    if rest.octets ≤ owner.octets then
      (line.target.cutAt? (owner.octets - rest.octets)).map fun parts => .ok (name, parts.2)
    else none

theorem ownerAt?_eq (line : ImportLine) : line.ownerAt? = some line.owner.1 := by
  simp only [ownerAt?, owner, Text.lastOffset?_eq]
  cases line.isStatic with
  | false => rfl
  | true =>
    cases cut : Text.cutLast? '.' line.target with
    | none => rfl
    | some parts =>
      rcases parts with ⟨before, member⟩
      simp [(Text.eq_of_cutLast? cut).1, Text.cutAt?_append]

/-- What is left of the owner behind the class is counted from its end, and tells where the class
ends in the target. -/
theorem octets_owner_of_splitMember {line : ImportLine} {name : ClassName} {rest : Text}
    (split : ClassName.splitMember line.owner.1 = .ok (name, rest)) :
    line.owner.1.octets = name.qualified.octets + rest.octets ∧
      line.target = name.qualified ++ (rest ++ line.owner.2) := by
  have owned := (ClassName.splitMember_eq_ok_iff_isMember.1 split).1
  constructor
  · rw [← owned, Text.octets_append]
  · rw [← owner_append line, ← owned, List.append_assoc]

/-- Reading an import by offset is sound: both offsets lie on a boundary, and the class and what is
taken of it are those that the segments make. -/
structure CutsByOffset (line : ImportLine) : Prop where
  dot_inside : ∀ dot, Text.lastOffset? '.' line.target = some dot → line.target.IsOffset dot
  suffix_inside : ∀ name rest, ClassName.splitMember line.owner.1 = .ok (name, rest) →
    rest.octets ≤ line.owner.1.octets ∧
      line.target.IsOffset (line.owner.1.octets - rest.octets)
  agrees : line.importedClassAt? = some line.importedClass

theorem cutsByOffset (line : ImportLine) : CutsByOffset line where
  dot_inside := by
    intro dot found
    rw [Text.lastOffset?_eq] at found
    rcases Option.map_eq_some_iff.1 found with ⟨⟨before, member⟩, cut, rfl⟩
    rw [(Text.eq_of_cutLast? cut).1]
    exact Text.isOffset_append _ _
  suffix_inside := by
    intro name rest split
    rcases octets_owner_of_splitMember split with ⟨counted, whole⟩
    refine ⟨by omega, ?_⟩
    rw [counted, Nat.add_sub_cancel, whole]
    exact Text.isOffset_append _ _
  agrees := by
    simp only [importedClassAt?, importedClass, ownerAt?_eq,
      (ClassName.cutsByOffset line.owner.1).agrees, bind, Option.bind_some, Except.bind]
    cases split : ClassName.splitMember line.owner.1 with
    | error failure => rfl
    | ok parts =>
      rcases parts with ⟨name, rest⟩
      rcases octets_owner_of_splitMember split with ⟨counted, whole⟩
      simp only [counted, Nat.add_sub_cancel, Nat.le_add_left, ↓reduceIte]
      rw [whole, Text.cutAt?_append]
      rfl

end ImportLine

/-! ## Both ways together -/

/-- A class is found in a dotted text exactly when the text is its qualified name and what may
follow a class, and in the target of an import exactly when the target is its qualified name and
what the import may take; a static import takes something.  A qualified name tells its class.  Where
the parts are found by counting octets, every offset lies inside the text on the boundary of a
character, and the parts are the same. -/
theorem qualified_names_found_again :
    (∀ (dotted : Text) (name : ClassName) (rest : Text),
      ClassName.splitMember dotted = .ok (name, rest) ↔
        name.qualified ++ rest = dotted ∧ name.simple.startsUpper = true ∧ IsMember rest) ∧
    (∀ (line : ImportLine) (name : ClassName) (suffix : Text),
      (line.importedClass = .ok (name, suffix) ↔
        line.target = name.qualified ++ suffix ∧ name.simple.startsUpper = true ∧
          ImportLine.Takes line.isStatic suffix) ∧
      (line.importedClass = .ok (name, suffix) → line.isStatic = true → suffix ≠ [])) ∧
    (∀ first second : ClassName, first = second ↔ first.qualified = second.qualified) ∧
    (∀ dotted : Text, ClassName.CutsByOffset dotted) ∧
    ∀ line : ImportLine, ImportLine.CutsByOffset line := by
  refine ⟨?_, ?_, ?_, ClassName.cutsByOffset, ImportLine.cutsByOffset⟩
  · intro dotted name rest
    exact ClassName.splitMember_eq_ok_iff_isMember
  · intro line name suffix
    refine ⟨ImportLine.importedClass_eq_ok_iff_takes, ?_⟩
    intro imported static
    have takes := (ImportLine.importedClass_eq_ok_iff_takes.1 imported).2.2
    rw [static] at takes
    exact takes.ne_nil
  · intro first second
    exact ⟨congrArg ClassName.qualified, ClassName.qualified_injective⟩

/-- A class whose simple name is a single capital. -/
def capitalSample : ClassName :=
  ⟨"v".toList, "V".toList, by decide, by decide⟩

/-- A static import of a member that starts with a capital. -/
def constantSample : ImportLine :=
  ⟨[], true, "v.V.MAX".toList, ";".toList⟩

/-- The class is found before the member of a static import, although the member starts with a
capital, and before an empty segment and one that starts with a letter of two octets. -/
theorem qualified_names_found_again_sample :
    ImportLine.ofLine? "import static v.V.MAX;".toList = some constantSample ∧
    constantSample.importedClass = .ok (capitalSample, ".MAX".toList) ∧
    constantSample.target = capitalSample.qualified ++ ".MAX".toList ∧
    ".MAX".toList ≠ [] ∧
    constantSample.importedClassAt? = some (.ok (capitalSample, ".MAX".toList)) ∧
    ClassName.splitMember "v.V..é".toList = .ok (capitalSample, "..é".toList) ∧
    ClassName.splitMemberAt? "v.V..é".toList = some (.ok (capitalSample, "..é".toList)) := by
  rcases qualified_names_found_again with ⟨dotted, imports, -, cuts, readings⟩
  have imported : constantSample.importedClass = .ok (capitalSample, ".MAX".toList) := by rfl
  have split : ClassName.splitMember "v.V..é".toList = .ok (capitalSample, "..é".toList) :=
    (dotted _ _ _).2 ⟨rfl, rfl, .inr rfl, by decide⟩
  refine ⟨by decide +kernel, imported, ((imports _ _ _).1.1 imported).1,
    (imports _ _ _).2 imported rfl, ?_, split, ?_⟩
  · rw [(readings constantSample).agrees, imported]
  · rw [(cuts _).agrees, split]

end ClassMove
