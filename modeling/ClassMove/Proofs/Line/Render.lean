import ClassMove.Proofs.Line.Grammar

/-!
# Lines printed and read again

A line that was read can be printed with every name that its grammar has, words of the
grammar included: the modifier `static`, the `as` of another name, the kinds of types.
The old tail is glued to the new name, and the text could be cut in another way.  It is
not: its only cut is the one that it was printed from, with one space behind each word,
so it is read with the new name and is otherwise the line that was printed.
-/

namespace ClassMove

/-- What was kept of a line, with another name and one space behind each word. -/
def Captures.spaced (kept : Captures) (name : Text) : LineCut :=
  ⟨kept.indent, kept.words.map (·, [' ']), name, kept.tail⟩

theorem Captures.words_spaced (kept : Captures) (name : Text) :
    (kept.spaced name).words.map Prod.fst = kept.words := by
  rw [spaced, List.map_map]
  exact List.map_id kept.words

/-! ## Printed lines are put together from their parts -/

theorem PackageLine.render_eq_line (found : PackageLine) (name : Text) :
    found.render name = (found.captures.spaced name).line := by
  simp [render, head, captures, Captures.spaced, LineCut.line, LineCut.joinWords]

theorem ImportLine.render_eq_line (found : ImportLine) (target : Text) :
    found.render target = (found.captures.spaced target).line := by
  rcases found with ⟨indent, isStatic, old, tail⟩
  cases isStatic with
  | false =>
    simp [render, head, modifiers, captures, Captures.spaced, LineCut.line, LineCut.joinWords]
  | true =>
    simp [render, head, modifiers, captures, Captures.spaced, LineCut.line, LineCut.joinWords]

theorem TypeLine.render_eq_line (found : TypeLine) (name : Text) :
    found.render name = (found.captures.spaced name).line := by
  simp [render, head, captures, Captures.spaced, LineCut.line, LineCut.joinWords,
    List.flatMap_map]

namespace LineGrammar

variable {grammar : LineGrammar} {Found : Type} {ofLine? : Text → Option Found}
  {captures : Found → Captures} {render : Found → Text → Text} {rename : Found → Text → Found}

/-- The parts of a line are parts of a line also with another name and other white space. -/
theorem Cuts.spaced {line : Text} {cut : LineCut} (cuts : grammar.Cuts line cut) {name : Text}
    (named : name ∈ grammar.name) :
    grammar.Cuts (cut.captures.spaced name).line (cut.captures.spaced name) := by
  refine ⟨⟨cuts.indent, ?_, ?_, named⟩, cuts.tail, rfl⟩
  · rw [Captures.words_spaced]
    exact cuts.words
  · intro entry member
    rcases List.mem_map.1 member with ⟨word, -, rfl⟩
    exact Pattern.mem_gap.2 isGap_space

/-- Does the reader undo the printer?  Printed with a name of the grammar, a line that was read has
one cut and is read as the same line under the new name; from there it is printed as before. -/
structure Undoes (grammar : LineGrammar) {Found : Type} (ofLine? : Text → Option Found)
    (captures : Found → Captures) (render : Found → Text → Text)
    (rename : Found → Text → Found) : Prop where
  cut : ∀ line found, ofLine? line = some found → ∀ name ∈ grammar.name, ∀ cut,
    grammar.Cuts (render found name) cut ↔ cut = (captures found).spaced name
  again : ∀ line found, ofLine? line = some found → ∀ name ∈ grammar.name,
    ofLine? (render found name) = some (rename found name)
  onward : ∀ line found, ofLine? line = some found → ∀ name ∈ grammar.name,
    ∀ renamed, ofLine? (render found name) = some renamed →
      ∀ other, render renamed other = render found other

/-- A printed line has the cut that it was put together from, and no line has two. -/
theorem ReadBy.cuts_render_iff (readBy : grammar.ReadBy ofLine? captures)
    (printed : ∀ found name, render found name = ((captures found).spaced name).line)
    {line : Text} {found : Found} (read : ofLine? line = some found) {name : Text}
    (named : name ∈ grammar.name) (cut : LineCut) :
    grammar.Cuts (render found name) cut ↔ cut = (captures found).spaced name := by
  rcases (readBy.accepted line).1 (Option.isSome_of_eq_some read) with ⟨old, cuts⟩
  have spaced := cuts.spaced named
  rw [← readBy.captured line found old read cuts] at spaced
  rw [printed]
  constructor
  · intro other
    exact readBy.unique _ _ _ other spaced
  · rintro rfl
    exact spaced

/-- A reader of the grammar undoes a printer that puts lines together from their parts and does not
look at the old name. -/
theorem Undoes.of_readBy (readBy : grammar.ReadBy ofLine? captures)
    (printed : ∀ found name, render found name = ((captures found).spaced name).line)
    (again : ∀ line found, ofLine? line = some found → ∀ name ∈ grammar.name,
      ofLine? (render found name) = some (rename found name))
    (forgets : ∀ found name other, render (rename found name) other = render found other) :
    grammar.Undoes ofLine? captures render rename := by
  refine ⟨?_, again, ?_⟩
  · intro line found read name named cut
    exact readBy.cuts_render_iff printed read named cut
  · intro line found read name named renamed readAgain other
    rw [again line found read name named] at readAgain
    cases Option.some.inj readAgain
    exact forgets found name other

theorem package_undoes :
    package.Undoes PackageLine.ofLine? PackageLine.captures PackageLine.render
      fun found name => { found with name } := by
  apply Undoes.of_readBy package_readBy PackageLine.render_eq_line
  · intro line found read name named
    exact PackageLine.ofLine?_render read (Pattern.mem_dotted_segment.1 named)
  · intro found name other
    rfl

theorem importing_undoes :
    importing.Undoes ImportLine.ofLine? ImportLine.captures ImportLine.render
      fun found target => { found with target } := by
  apply Undoes.of_readBy importing_readBy ImportLine.render_eq_line
  · intro line found read target named
    exact ImportLine.ofLine?_render read (Pattern.mem_dotted_identifier.1 named)
  · intro found target other
    rfl

theorem type_undoes :
    type.Undoes TypeLine.ofLine? TypeLine.captures TypeLine.render
      fun found name => { found with name } := by
  apply Undoes.of_readBy type_readBy TypeLine.render_eq_line
  · intro line found read name named
    exact TypeLine.ofLine?_render read (Pattern.mem_identifier.1 named)
  · intro found name other
    rfl

end LineGrammar

/-- Each reader undoes its printer: whatever name of its grammar a line is printed with, the line
can be cut in one way only, is read with that name, and has the indentation, the words and the tail
that it had. -/
theorem readers_undo_rendering :
    LineGrammar.package.Undoes PackageLine.ofLine? PackageLine.captures PackageLine.render
      (fun found name => { found with name }) ∧
    LineGrammar.importing.Undoes ImportLine.ofLine? ImportLine.captures ImportLine.render
      (fun found target => { found with target }) ∧
    LineGrammar.type.Undoes TypeLine.ofLine? TypeLine.captures TypeLine.render
      fun found name => { found with name } :=
  ⟨LineGrammar.package_undoes, LineGrammar.importing_undoes, LineGrammar.type_undoes⟩

/-- An import is given the target `static` in front of another name, and a class is called
`class`. -/
theorem readers_undo_rendering_keywords :
    ImportLine.ofLine? "import static as x;".toList =
        some ⟨[], false, "static".toList, " as x;".toList⟩ ∧
      TypeLine.ofLine? "public class class(int x)".toList =
        some ⟨[], [.publicAccess], .classType, "class".toList, "(int x)".toList⟩ := by
  have importing : ImportLine.ofLine? "import  v.V as x;".toList =
      some ⟨[], false, "v.V".toList, " as x;".toList⟩ := by decide +kernel
  have type : TypeLine.ofLine? "public  class V(int x)".toList =
      some ⟨[], [.publicAccess], .classType, "V".toList, "(int x)".toList⟩ := by decide +kernel
  exact ⟨readers_undo_rendering.2.1.again _ _ importing "static".toList
      (Pattern.mem_dotted_identifier.2 (by decide +kernel)),
    readers_undo_rendering.2.2.again _ _ type "class".toList
      (Pattern.mem_identifier.2 (by decide +kernel))⟩

end ClassMove
