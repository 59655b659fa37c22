import ClassMove.Files.Change
import ClassMove.Proofs.Path.Location
import ClassMove.Text.Utf8

/-!
# What stands where

A tree is seen as a function from locations to entries: a file with its octets, a
directory, or nothing.  Each change of a tree is an equation on that function, which
is changed at the places that the change is about and nowhere else.
-/

namespace ClassMove

/-- A file with its octets, or a directory. -/
inductive Entry where
  | file (octets : List UInt8)
  | dir
deriving DecidableEq

namespace Node

/-- What a node is, without what is below it. -/
def entry : Node → Entry
  | .file octets => .file octets
  | .dir _ => .dir

/-- What stands where the names lead. -/
def entryAt? (tree : Node) (names : List FileName) : Option Entry :=
  (tree.get? names).map entry

@[simp]
theorem entryAt?_nil (tree : Node) : tree.entryAt? [] = some tree.entry := by
  simp [entryAt?]

@[simp]
theorem entryAt?_file_cons (octets : List UInt8) (name : FileName) (names : List FileName) :
    entryAt? (.file octets) (name :: names) = none :=
  rfl

theorem entryAt?_dir_cons (entries : Entries) (name : FileName) (names : List FileName) :
    entryAt? (.dir entries) (name :: names) =
      (Entries.lookup name entries).bind (·.entryAt? names) := by
  simp only [entryAt?, get?]
  cases Entries.lookup name entries with
  | none => rfl
  | some child => rfl

/-- Only directories have anything below them. -/
theorem entryAt?_eq_dir_of_append {tree : Node} {names rest : List FileName} (below : rest ≠ [])
    {entry : Entry} (found : tree.entryAt? (names ++ rest) = some entry) :
    tree.entryAt? names = some .dir := by
  induction names generalizing tree with
  | nil =>
    cases tree with
    | file octets =>
      cases rest with
      | nil => exact absurd rfl below
      | cons name rest => cases found
    | dir entries => rfl
  | cons name names ih =>
    cases tree with
    | file octets => cases found
    | dir entries =>
      rw [List.cons_append, entryAt?_dir_cons] at found
      rw [entryAt?_dir_cons]
      cases listed : Entries.lookup name entries with
      | none =>
        rw [listed] at found
        cases found
      | some child =>
        rw [listed] at found
        exact ih found

theorem entryAt?_append_of_ne_dir {tree : Node} {names rest : List FileName}
    (noDir : tree.entryAt? names ≠ some .dir) (below : rest ≠ []) :
    tree.entryAt? (names ++ rest) = none := by
  cases found : tree.entryAt? (names ++ rest) with
  | none => rfl
  | some entry => exact absurd (entryAt?_eq_dir_of_append below found) noDir

/-! ## Putting and taking away -/

/-- Can a node be put where the names lead, and nothing else change? -/
def Receives (tree : Node) (names : List FileName) : Prop :=
  tree.entryAt? names ≠ some .dir ∧
    (tree.entryAt? names = none → ∃ parent name, names = parent ++ [name] ∧
      tree.entryAt? parent = some .dir)

theorem Receives.child {entries : Entries} {name next : FileName} {names : List FileName}
    (receives : Receives (.dir entries) (name :: next :: names)) :
    ∃ child, Entries.lookup name entries = some child ∧ Receives child (next :: names) := by
  rcases receives with ⟨noDir, held⟩
  simp only [entryAt?_dir_cons] at noDir held
  cases listed : Entries.lookup name entries with
  | none =>
    rcases held (by rw [listed]; rfl) with ⟨parent, last, same, isDir⟩
    cases parent with
    | nil => cases same
    | cons first parent =>
      cases (List.cons.inj same).1
      rw [entryAt?_dir_cons, listed] at isDir
      cases isDir
  | some child =>
    simp only [listed, Option.bind_some] at noDir held
    refine ⟨child, rfl, noDir, ?_⟩
    intro missing
    rcases held missing with ⟨parent, last, same, isDir⟩
    cases parent with
    | nil => cases same
    | cons first parent =>
      rcases List.cons.inj same with ⟨rfl, rest⟩
      rw [entryAt?_dir_cons, listed] at isDir
      exact ⟨parent, last, rest, isDir⟩

/-- A node without anything below it changes the tree where it is put. -/
theorem entryAt?_set {tree leaf : Node} {names : List FileName} (receives : tree.Receives names)
    (bare : ∀ name rest, leaf.entryAt? (name :: rest) = none) (other : List FileName) :
    (tree.set names leaf).entryAt? other =
      if other = names then some leaf.entry else tree.entryAt? other := by
  induction names generalizing tree other with
  | nil =>
    cases tree with
    | dir entries => exact absurd rfl receives.1
    | file octets =>
      cases other with
      | nil => simp [set]
      | cons name rest => simp [set, bare]
  | cons name names ih =>
    cases tree with
    | file octets =>
      rcases receives.2 rfl with ⟨parent, last, same, isDir⟩
      cases parent with
      | nil => cases isDir
      | cons first parent => cases isDir
    | dir entries =>
      cases other with
      | nil => simp [set, entry]
      | cons first rest =>
        by_cases same : first = name
        · subst same
          rw [set, entryAt?_dir_cons, entryAt?_dir_cons, Entries.lookup_insert_self,
            Option.bind_some]
          cases names with
          | nil =>
            cases rest with
            | nil => simp [set]
            | cons second rest =>
              have below := entryAt?_append_of_ne_dir receives.1 (List.cons_ne_nil second rest)
              simp only [List.cons_append, List.nil_append, entryAt?_dir_cons] at below
              simp [set, bare, below]
          | cons next names =>
            rcases receives.child with ⟨child, listed, inner⟩
            rw [listed, Option.getD_some, ih inner, Option.bind_some]
            simp
        · rw [set, entryAt?_dir_cons, entryAt?_dir_cons, Entries.lookup_insert_of_ne same]
          simp [same]

/-- A file that is taken away leaves the rest of the tree as it was. -/
theorem entryAt?_erase {tree : Node} {names : List FileName} {octets : List UInt8}
    (nonempty : names ≠ []) (found : tree.entryAt? names = some (.file octets))
    (other : List FileName) :
    (tree.erase names).entryAt? other = if other = names then none else tree.entryAt? other := by
  induction names generalizing tree other with
  | nil => exact absurd rfl nonempty
  | cons name names ih =>
    cases tree with
    | file octets => cases found
    | dir entries =>
      have inside := found
      rw [entryAt?_dir_cons] at inside
      rcases Option.bind_eq_some_iff.1 inside with ⟨child, listed, held⟩
      cases other with
      | nil =>
        cases names with
        | nil => simp [erase, entry]
        | cons next names => simp [erase, listed, entry]
      | cons first rest =>
        by_cases same : first = name
        · subst same
          cases names with
          | nil =>
            rw [erase, entryAt?_dir_cons, entryAt?_dir_cons, Entries.lookup_erase_self, listed]
            cases rest with
            | nil => simp
            -- Nothing was below the file, so nothing is lost there.
            | cons second rest =>
              have noDir : child.entryAt? [] ≠ some .dir := by simp [held]
              have below := entryAt?_append_of_ne_dir noDir (List.cons_ne_nil second rest)
              simpa using below.symm
          | cons next names =>
            simp only [erase, listed]
            rw [entryAt?_dir_cons, entryAt?_dir_cons, Entries.lookup_insert_self, listed,
              Option.bind_some, Option.bind_some, ih (by simp) held]
            simp
        · cases names with
          | nil =>
            rw [erase, entryAt?_dir_cons, entryAt?_dir_cons, Entries.lookup_erase_of_ne same]
            simp [same]
          | cons next names =>
            simp only [erase, listed]
            rw [entryAt?_dir_cons, entryAt?_dir_cons, Entries.lookup_insert_of_ne same]
            simp [same]

end Node

theorem Location.names_inj {first second : Location} :
    first.names = second.names ↔ first = second := by
  rcases first with ⟨first⟩
  rcases second with ⟨second⟩
  simp

namespace FileSystem

/-- What stands at a location. -/
def entryAt? (files : FileSystem) (location : Location) : Option Entry :=
  files.tree.entryAt? location.names

theorem entryAt?_eq_map_find? (files : FileSystem) (location : Location) :
    files.entryAt? location = (files.find? location).map Node.entry :=
  rfl

theorem entryAt?_eq_file_iff {files : FileSystem} {location : Location} {octets : List UInt8} :
    files.entryAt? location = some (.file octets) ↔ files.find? location = some (.file octets) := by
  rw [entryAt?_eq_map_find?]
  cases files.find? location with
  | none => simp
  | some node =>
    cases node with
    | file other => simp [Node.entry]
    | dir entries => simp [Node.entry]

theorem entryAt?_eq_dir_iff {files : FileSystem} {location : Location} :
    files.entryAt? location = some .dir ↔
      ∃ entries, files.find? location = some (.dir entries) := by
  rw [entryAt?_eq_map_find?]
  cases files.find? location with
  | none => simp
  | some node =>
    cases node with
    | file other => simp [Node.entry]
    | dir entries => simp [Node.entry]

theorem entryAt?_eq_none_iff {files : FileSystem} {location : Location} :
    files.entryAt? location = none ↔ files.find? location = none := by
  rw [entryAt?_eq_map_find?, Option.map_eq_none_iff]

/-- What lies below a location makes it a directory. -/
theorem entryAt?_eq_dir_of_descend {files : FileSystem} {location : Location}
    {names : List FileName} (below : names ≠ []) {entry : Entry}
    (found : files.entryAt? (location.descend names) = some entry) :
    files.entryAt? location = some .dir :=
  Node.entryAt?_eq_dir_of_append below found

/-- Where there is a directory, no file is the root. -/
theorem names_ne_nil_of_file {files : FileSystem} {source parent : Location} {octets : List UInt8}
    (held : files.entryAt? source = some (.file octets))
    (isDir : files.entryAt? parent = some .dir) : source.names ≠ [] := by
  intro empty
  have rooted : source.descend parent.names = parent := by simp [Location.descend, empty]
  by_cases same : parent.names = []
  · rw [← rooted, same, Location.descend_nil, held] at isDir
    cases isDir
  · rw [← rooted] at isDir
    rw [entryAt?_eq_dir_of_descend same isDir] at held
    cases held

/-! ## One equation for each change -/

theorem entryAt?_writeAt {files : FileSystem} {location : Location} {old : List UInt8}
    (held : files.entryAt? location = some (.file old)) (octets : List UInt8) (other : Location) :
    (files.writeAt location octets).entryAt? other =
      if other = location then some (.file octets) else files.entryAt? other := by
  have receives : files.tree.Receives location.names := by
    have found : files.tree.entryAt? location.names = some (.file old) := held
    constructor
    · simp [found]
    · simp [found]
  show (files.tree.set location.names (.file octets)).entryAt? other.names = _
  rw [Node.entryAt?_set receives (Node.entryAt?_file_cons octets)]
  simp only [Location.names_inj, Node.entry, entryAt?]

theorem receives_descend {files : FileSystem} {parent : Location} {name : FileName}
    (isDir : files.entryAt? parent = some .dir)
    (noDir : files.entryAt? (parent.descend [name]) ≠ some .dir) :
    files.tree.Receives (parent.descend [name]).names :=
  ⟨noDir, fun _ => ⟨parent.names, name, rfl, isDir⟩⟩

theorem entryAt?_makeDirAt {files : FileSystem} {parent : Location} {name : FileName}
    (isDir : files.entryAt? parent = some .dir)
    (free : files.entryAt? (parent.descend [name]) = none) (other : Location) :
    (files.makeDirAt (parent.descend [name])).entryAt? other =
      if other = parent.descend [name] then some .dir else files.entryAt? other := by
  have receives := receives_descend isDir (by rw [free]; simp)
  show (files.tree.set (parent.descend [name]).names (.dir [])).entryAt? other.names = _
  rw [Node.entryAt?_set receives fun _ _ => rfl]
  simp only [Location.names_inj, Node.entry, entryAt?]

/-- A file that is moved to another place is there and no longer where it was. -/
theorem entryAt?_moveAt {files : FileSystem} {source parent : Location} {name : FileName}
    {octets : List UInt8} (held : files.entryAt? source = some (.file octets))
    (different : parent.descend [name] ≠ source) (isDir : files.entryAt? parent = some .dir)
    (noDir : files.entryAt? (parent.descend [name]) ≠ some .dir) (other : Location) :
    (files.moveAt source (parent.descend [name])).entryAt? other =
      if other = parent.descend [name] then some (.file octets)
      else if other = source then none else files.entryAt? other := by
  have nonempty := names_ne_nil_of_file held isDir
  have erased : ∀ place, (files.eraseAt source).entryAt? place =
      if place = source then none else files.entryAt? place := by
    intro place
    show (files.tree.erase source.names).entryAt? place.names = _
    rw [Node.entryAt?_erase nonempty held]
    simp only [Location.names_inj, entryAt?]
  have parentKept : (files.eraseAt source).entryAt? parent = some .dir := by
    rw [erased, if_neg, isDir]
    rintro rfl
    rw [held] at isDir
    cases isDir
  have targetKept : (files.eraseAt source).entryAt? (parent.descend [name]) ≠ some .dir := by
    rw [erased, if_neg different]
    exact noDir
  have moved : (files.moveAt source (parent.descend [name])).tree =
      (files.eraseAt source).tree.set (parent.descend [name]).names (.file octets) := by
    show files.tree.move source.names (parent.descend [name]).names = _
    have found : files.tree.get? source.names = some (.file octets) := entryAt?_eq_file_iff.1 held
    rw [Node.move, found]
    rfl
  rw [entryAt?, moved, Node.entryAt?_set (receives_descend parentKept targetKept)
    (Node.entryAt?_file_cons octets)]
  simp only [Location.names_inj, Node.entry]
  split
  · rfl
  · exact erased other

end FileSystem

/-! ## Small trees -/

def Location.ofString (spelling : String) : Location :=
  .ofPath .root (.ofString spelling)

def Entry.ofString (text : String) : Entry :=
  .file (Utf8.encode text.toList)

/-- A tree with these files, each a path and a text, and the directories that they lie in. -/
def FileSystem.ofFiles (texts : List (String × String)) : FileSystem :=
  texts.foldl (fun files (path, text) =>
    files.writeAt (.ofString path) (Utf8.encode text.toList)) (.empty .root)

end ClassMove
