import ClassMove.Dialect
import ClassMove.Files.Walk
import ClassMove.Proofs.Files.Place
import ClassMove.Settings.Basic
import Mathlib.Data.List.Sort

/-!
# What a walk finds

A walk over an ordered tree lists each file once, in the order of the names that lead
to it, and lists exactly the files that no skipped directory hides.  So what a walk
finds in a tree depends only on which files stand in it, and two walks that find the
same files find them in the same order.
-/

namespace ClassMove

/-! ## Members of a walk -/

theorem Entries.lookup_of_mem {entries : Entries} (sorted : entries.Sorted) {name : FileName}
    {node : Node} (member : (name, node) ∈ entries) : lookup name entries = some node := by
  induction entries with
  | nil => cases member
  | cons entry rest ih =>
    rcases entry with ⟨other, old⟩
    rcases List.pairwise_cons.1 sorted with ⟨least, later⟩
    rcases List.mem_cons.1 member with same | behind
    · cases same
      simp [lookup]
    · have different : other ≠ name := by
        rintro rfl
        have before := least _ behind
        rw [FileName.before_irrefl] at before
        cases before
      rw [lookup, if_neg different]
      exact ih later behind

theorem mem_walkEntries {skip : List Text} {entries : Entries} {names : List FileName} :
    names ∈ walkEntries skip entries ↔
      ∃ name node, (name, node) ∈ entries ∧ (node.isDir && name.isAmong skip) = false ∧
        ∃ rest ∈ node.walk skip, names = name :: rest := by
  induction entries with
  | nil => simp [walkEntries]
  | cons entry entries ih =>
    rcases entry with ⟨first, child⟩
    rw [walkEntries, List.mem_append, ih]
    constructor
    · rintro (here | ⟨name, node, member, entered, rest, walked, rfl⟩)
      · split at here
        · cases here
        · next entered =>
          rcases List.mem_map.1 here with ⟨rest, walked, rfl⟩
          exact ⟨first, child, List.mem_cons_self .., by simpa using entered, rest, walked, rfl⟩
      · exact ⟨name, node, List.mem_cons_of_mem _ member, entered, rest, walked, rfl⟩
    · rintro ⟨name, node, member, entered, rest, walked, rfl⟩
      rcases List.mem_cons.1 member with same | behind
      · cases same
        left
        rw [entered]
        exact List.mem_map.2 ⟨rest, walked, rfl⟩
      · exact .inr ⟨name, node, behind, entered, rest, walked, rfl⟩

/-- A walk lists the files that are not in a skipped directory. -/
theorem Node.Ordered.mem_walk {skip : List Text} {node : Node} (ordered : node.Ordered)
    {names : List FileName} :
    names ∈ node.walk skip ↔
      (∃ octets, node.entryAt? names = some (.file octets)) ∧
        ∀ name ∈ names.dropLast, name.isAmong skip = false := by
  induction ordered generalizing names with
  | file octets =>
    cases names with
    | nil => simp [Node.walk, Node.entry]
    | cons name names => simp [Node.walk]
  | dir entries sorted below ih =>
    rw [Node.walk, mem_walkEntries]
    constructor
    · rintro ⟨name, child, member, entered, rest, walked, rfl⟩
      rcases (ih _ member).1 walked with ⟨⟨octets, found⟩, open'⟩
      refine ⟨⟨octets, ?_⟩, ?_⟩
      · rw [Node.entryAt?_dir_cons, Entries.lookup_of_mem sorted member]
        exact found
      · cases rest with
        | nil => simp
        | cons next rest =>
          intro name' listed
          rw [List.dropLast_cons_of_ne_nil (List.cons_ne_nil next rest)] at listed
          rcases List.mem_cons.1 listed with rfl | later
          -- A name with more behind it is the name of a directory, which was not skipped.
          · cases child with
            | file other => cases found
            | dir inner => simpa [Node.isDir] using entered
          · exact open' name' later
    · rintro ⟨⟨octets, found⟩, open'⟩
      cases names with
      | nil => cases found
      | cons name rest =>
        rw [Node.entryAt?_dir_cons] at found
        rcases Option.bind_eq_some_iff.1 found with ⟨child, listed, inside⟩
        have member := Entries.mem_of_lookup listed
        refine ⟨name, child, member, ?_, rest, (ih _ member).2 ⟨⟨octets, inside⟩, ?_⟩, rfl⟩
        · cases child with
          | file other => rfl
          | dir inner =>
            cases rest with
            | nil => cases inside
            | cons next rest =>
              have free := open' name (by simp)
              simpa [Node.isDir] using free
        · intro name' later
          cases rest with
          | nil => cases later
          | cons next rest =>
            apply open' name'
            rw [List.dropLast_cons_of_ne_nil (List.cons_ne_nil next rest)]
            exact List.mem_cons_of_mem _ later

/-! ## The order of a walk -/

/-- Names in the order of the first one that differs. -/
def ComesBefore (first second : List FileName) : Prop :=
  List.Lex (fun name other => name.before other = true) first second

instance : Std.Irrefl ComesBefore where
  irrefl := List.lex_irrefl fun name => by simp [FileName.before_irrefl]

instance : Std.Antisymm ComesBefore where
  antisymm first second forth back := by
    refine absurd back (List.lex_asymm ?_ forth)
    intro name other less more
    have self := FileName.before_trans less more
    rw [FileName.before_irrefl] at self
    cases self

theorem pairwise_walkEntries {skip : List Text} {entries : Entries} (sorted : entries.Sorted)
    (below : ∀ entry ∈ entries, (entry.2.walk skip).Pairwise ComesBefore) :
    (walkEntries skip entries).Pairwise ComesBefore := by
  induction entries with
  | nil => exact .nil
  | cons entry entries ih =>
    rcases entry with ⟨name, node⟩
    rcases List.pairwise_cons.1 sorted with ⟨least, later⟩
    rw [walkEntries]
    refine List.pairwise_append.2 ⟨?_, ih later ?_, ?_⟩
    · split
      · exact .nil
      · have inside := below (name, node) (List.mem_cons_self ..)
        exact inside.map _ fun _ _ => List.Lex.cons
    · intro entry member
      exact below entry (List.mem_cons_of_mem _ member)
    · intro first here second there
      split at here
      · cases here
      · rcases List.mem_map.1 here with ⟨rest, -, rfl⟩
        rcases mem_walkEntries.1 there with ⟨other, child, member, -, rest', -, rfl⟩
        exact .rel (least _ member)

theorem Node.Ordered.pairwise_walk (skip : List Text) {node : Node} (ordered : node.Ordered) :
    (node.walk skip).Pairwise ComesBefore := by
  induction ordered with
  | file octets => exact List.pairwise_singleton ..
  | dir entries sorted below ih =>
    rw [Node.walk]
    exact pairwise_walkEntries sorted ih

/-! ## Files that are searched for imports -/

/-- Is a file at the location searched for imports?  It has to be a source file below the base,
not in a directory that is skipped, nor in one that is too deep to be listed. -/
def isSearched (settings : Settings) (base location : Location) : Bool :=
  match base.below? location with
  | none => false
  | some names =>
    (Dialect.ofLocation? location).isSome &&
      names.dropLast.all (fun name => !name.isAmong settings.skipDirs) &&
        isListed base.toPath names

theorem isSearched_descend (settings : Settings) (base : Location) (names : List FileName) :
    isSearched settings base (base.descend names) =
      ((Dialect.ofLocation? (base.descend names)).isSome &&
        names.dropLast.all (fun name => !name.isAmong settings.skipDirs) &&
          isListed base.toPath names) := by
  rw [isSearched, Location.below?_eq_some_iff.2 rfl]

theorem exists_descend_of_isSearched {settings : Settings} {base location : Location}
    (searched : isSearched settings base location = true) :
    ∃ names, location = base.descend names ∧
      ∀ name ∈ names.dropLast, name.isAmong settings.skipDirs = false := by
  cases below : base.below? location with
  | none => simp [isSearched, below] at searched
  | some names =>
    have same := Location.below?_eq_some_iff.1 below
    refine ⟨names, same, ?_⟩
    rw [same, isSearched_descend] at searched
    simp only [Bool.and_eq_true, List.all_eq_true, Bool.not_eq_true'] at searched
    exact searched.1.2

/-- What can be opened lies in a directory that can be listed. -/
theorem isListed_of_accept {base : Location} {names : List FileName}
    (accepted : FileSystem.accept (base.descend names).toPath = .ok ()) :
    isListed base.toPath names = true := by
  have above : FileSystem.accept (base.descend names.dropLast).toPath = .ok () := by
    rcases names.eq_nil_or_concat with rfl | ⟨front, last, rfl⟩
    · exact accepted
    · rw [List.concat_eq_append, ← Location.descend_descend] at accepted
      rw [List.concat_eq_append, List.dropLast_concat]
      exact FileSystem.accept_toPath_of_descend accepted
  rw [isListed, base.toPath_descend, (FileSystem.accept_toPath_eq_ok_iff.1 above).2]
  rfl

/-- Locations in the order in which a walk comes to them. -/
def Location.ComesBefore (first second : Location) : Prop :=
  ClassMove.ComesBefore first.names second.names

instance : Std.Irrefl Location.ComesBefore where
  irrefl location := Std.Irrefl.irrefl location.names

instance : Std.Antisymm Location.ComesBefore where
  antisymm first second forth back :=
    Location.names_inj.1 (Std.Antisymm.antisymm first.names second.names forth back)

theorem Location.comesBefore_descend (base : Location) {first second : List FileName}
    (before : ClassMove.ComesBefore first second) :
    (base.descend first).ComesBefore (base.descend second) := by
  show ClassMove.ComesBefore (base.names ++ first) (base.names ++ second)
  induction base.names with
  | nil => exact before
  | cons name names ih => exact .cons ih

namespace FileSystem

/-- The files below the base that are searched for imports, in order. -/
def searched (files : FileSystem) (settings : Settings) (base : Location) : List Location :=
  match files.find? base with
  | none => []
  | some node =>
    ((node.walk settings.skipDirs).map base.descend).filter (isSearched settings base)

theorem entryAt?_descend {files : FileSystem} {base : Location} {node : Node}
    (found : files.find? base = some node) (names : List FileName) :
    files.entryAt? (base.descend names) = node.entryAt? names := by
  have held : files.tree.get? base.names = some node := found
  have append : ∀ (tree : Node) (first : List FileName), tree.get? first = some node →
      tree.entryAt? (first ++ names) = node.entryAt? names := by
    intro tree first
    induction first generalizing tree with
    | nil =>
      intro same
      cases Option.some.inj ((Node.get?_nil tree).symm.trans same)
      rfl
    | cons name first ih =>
      intro reached
      cases tree with
      | file octets => cases reached
      | dir entries =>
        rcases Option.bind_eq_some_iff.1 reached with ⟨child, listed, inside⟩
        rw [List.cons_append, Node.entryAt?_dir_cons, listed]
        exact ih child inside
  exact append files.tree base.names held

theorem mem_searched {files : FileSystem} {settings : Settings} {base location : Location} :
    location ∈ files.searched settings base ↔
      (∃ octets, files.entryAt? location = some (.file octets)) ∧
        isSearched settings base location = true := by
  rw [searched]
  cases found : files.find? base with
  | none =>
    have nothing : ¬ ((∃ octets, files.entryAt? location = some (.file octets)) ∧
        isSearched settings base location = true) := by
      rintro ⟨⟨octets, held⟩, inside⟩
      rcases exists_descend_of_isSearched inside with ⟨names, rfl, -⟩
      have missing := entryAt?_eq_none_iff.2 found
      by_cases here : names = []
      · rw [here, Location.descend_nil, missing] at held
        cases held
      · rw [entryAt?_eq_dir_of_descend here held] at missing
        cases missing
    simpa using nothing
  | some node =>
    have ordered : node.Ordered := files.ordered.get? found
    rw [List.mem_filter, List.mem_map]
    constructor
    · rintro ⟨⟨names, walked, rfl⟩, inside⟩
      refine ⟨?_, inside⟩
      rw [entryAt?_descend found]
      exact (ordered.mem_walk.1 walked).1
    · rintro ⟨held, inside⟩
      rcases exists_descend_of_isSearched inside with ⟨names, rfl, unskipped⟩
      rw [entryAt?_descend found] at held
      exact ⟨⟨names, ordered.mem_walk.2 ⟨held, unskipped⟩, rfl⟩, inside⟩

theorem pairwise_searched (files : FileSystem) (settings : Settings) (base : Location) :
    (files.searched settings base).Pairwise Location.ComesBefore := by
  rw [searched]
  split
  · exact .nil
  · next node found =>
    have ordered : node.Ordered := files.ordered.get? found
    apply List.Pairwise.filter
    exact (ordered.pairwise_walk settings.skipDirs).map _ fun _ _ => base.comesBefore_descend

theorem collect_toPath {files : FileSystem} (settings : Settings) {base : Location}
    (rooted : files.entryAt? .root = some .dir) (accepted : accept base.toPath = .ok ()) :
    files.collect base.toPath settings.skipDirs (fun path => (Dialect.ofPath? path).isSome) =
      (files.searched settings base).map Location.toPath := by
  rw [collect, searched]
  cases found : files.find? base with
  | none =>
    cases stat : files.stat base.toPath with
    | error refusal => rfl
    | ok node =>
      rw [((stat_toPath_eq_ok_iff rooted).1 stat).2] at found
      cases found
  | some node =>
    have ordered : node.Ordered := files.ordered.get? found
    have spelled : base.toPath.descend = fun names => (base.descend names).toPath := by
      funext names
      exact base.toPath_descend names
    rw [(stat_toPath_eq_ok_iff rooted).2 ⟨accepted, found⟩]
    simp only [List.filter_map, List.filter_filter, List.map_map, spelled]
    congr 1
    apply List.filter_congr
    intro names walked
    have unskipped :
        names.dropLast.all (fun name => !name.isAmong settings.skipDirs) = true := by
      rw [List.all_eq_true]
      intro name member
      rw [(ordered.mem_walk.1 walked).2 name member]
      rfl
    simp only [Function.comp_apply, isSearched_descend, unskipped, Location.ofPath?_toPath,
      Bool.and_true]

end FileSystem

end ClassMove
