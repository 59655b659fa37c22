import ClassMove.Path.FileName

/-!
# File trees

A node is a file with its octets or a directory with its entries.  In an ordered
tree every directory lists its entries in the order of their names, each name
once; putting a node somewhere, taking one away and moving one keep trees ordered.

`Node.get?` is the view of a tree: the node that a list of names leads to.
-/

namespace ClassMove

/-- A file or a directory. -/
inductive Node where
  | file (octets : List UInt8)
  | dir (entries : List (FileName × Node))

/-- The entries of a directory. -/
abbrev Entries := List (FileName × Node)

namespace Entries

/-! ## Entries of one directory -/

/-- The entry with a given name. -/
def lookup (name : FileName) : Entries → Option Node
  | [] => none
  | (other, node) :: rest => if other = name then some node else lookup name rest

/-- Give an entry a new node, or add it in its place. -/
def insert (name : FileName) (node : Node) : Entries → Entries
  | [] => [(name, node)]
  | (other, old) :: rest =>
    if other = name then (name, node) :: rest
    else if name.before other then (name, node) :: (other, old) :: rest
    else (other, old) :: insert name node rest

/-- Leave an entry out. -/
def erase (name : FileName) : Entries → Entries
  | [] => []
  | (other, node) :: rest =>
    if other = name then erase name rest else (other, node) :: erase name rest

@[simp]
theorem lookup_insert_self (name : FileName) (node : Node) (entries : Entries) :
    lookup name (insert name node entries) = some node := by
  induction entries with
  | nil => simp [insert, lookup]
  | cons entry rest ih =>
    obtain ⟨other, old⟩ := entry
    by_cases same : other = name
    · simp [insert, lookup, same]
    · by_cases less : name.before other = true <;> simp [insert, lookup, same, less, ih]

theorem lookup_insert_of_ne {name other : FileName} (different : other ≠ name)
    (node : Node) (entries : Entries) :
    lookup other (insert name node entries) = lookup other entries := by
  induction entries with
  | nil => simp [insert, lookup, Ne.symm different]
  | cons entry rest ih =>
    obtain ⟨first, old⟩ := entry
    by_cases same : first = name
    · subst same
      simp [insert, lookup, Ne.symm different]
    · by_cases less : name.before first = true <;>
        simp [insert, lookup, same, less, Ne.symm different, ih]

@[simp]
theorem lookup_erase_self (name : FileName) (entries : Entries) :
    lookup name (erase name entries) = none := by
  induction entries with
  | nil => rfl
  | cons entry rest ih =>
    obtain ⟨other, node⟩ := entry
    by_cases same : other = name <;> simp [erase, lookup, same, ih]

theorem lookup_erase_of_ne {name other : FileName} (different : other ≠ name)
    (entries : Entries) : lookup other (erase name entries) = lookup other entries := by
  induction entries with
  | nil => rfl
  | cons entry rest ih =>
    obtain ⟨first, node⟩ := entry
    by_cases same : first = name
    · subst same
      simp [erase, lookup, Ne.symm different, ih]
    · simp [erase, lookup, same, ih]

theorem mem_of_lookup {name : FileName} {node : Node} {entries : Entries}
    (found : lookup name entries = some node) : (name, node) ∈ entries := by
  induction entries with
  | nil => simp [lookup] at found
  | cons entry rest ih =>
    obtain ⟨other, old⟩ := entry
    by_cases same : other = name
    · subst same
      simp only [lookup, ↓reduceIte, Option.some.injEq] at found
      simp [found]
    · simp only [lookup, same, ↓reduceIte] at found
      exact List.mem_cons_of_mem _ (ih found)

theorem mem_insert {name : FileName} {node : Node} {entries : Entries} {entry : FileName × Node}
    (member : entry ∈ insert name node entries) : entry = (name, node) ∨ entry ∈ entries := by
  induction entries with
  | nil => simpa [insert] using member
  | cons first rest ih =>
    obtain ⟨other, old⟩ := first
    simp only [insert] at member
    split at member
    · rcases List.mem_cons.1 member with same | later
      · exact .inl same
      · exact .inr (List.mem_cons_of_mem _ later)
    · split at member
      · exact List.mem_cons.1 member
      · rcases List.mem_cons.1 member with same | later
        · exact .inr (same ▸ List.mem_cons_self ..)
        · exact (ih later).imp_right (List.mem_cons_of_mem _)

theorem mem_of_mem_erase {name : FileName} {entries : Entries} {entry : FileName × Node}
    (member : entry ∈ erase name entries) : entry ∈ entries := by
  induction entries with
  | nil => exact member
  | cons first rest ih =>
    simp only [erase] at member
    split at member
    · exact List.mem_cons_of_mem _ (ih member)
    · rcases List.mem_cons.1 member with same | later
      · exact same ▸ List.mem_cons_self ..
      · exact List.mem_cons_of_mem _ (ih later)

/-- Each name comes before those that follow it. -/
def Sorted (entries : Entries) : Prop :=
  entries.Pairwise fun first second => first.1.before second.1 = true

theorem Sorted.insert {entries : Entries} (sorted : entries.Sorted) (name : FileName)
    (node : Node) : (Entries.insert name node entries).Sorted := by
  induction entries with
  | nil => exact List.pairwise_singleton ..
  | cons first rest ih =>
    obtain ⟨other, old⟩ := first
    obtain ⟨least, later⟩ := List.pairwise_cons.1 sorted
    simp only [Entries.insert]
    split
    · next same =>
      subst same
      exact List.pairwise_cons.2 ⟨least, later⟩
    · next different =>
      split
      · next less =>
        refine List.pairwise_cons.2 ⟨?_, sorted⟩
        intro entry member
        rcases List.mem_cons.1 member with same | behind
        · exact same ▸ less
        · exact FileName.before_trans less (least entry behind)
      · next notLess =>
        refine List.pairwise_cons.2 ⟨?_, ih later⟩
        intro entry member
        rcases mem_insert member with same | behind
        · exact same ▸ FileName.before_of_not_before (Ne.symm different) notLess
        · exact least entry behind

theorem Sorted.erase {entries : Entries} (sorted : entries.Sorted) (name : FileName) :
    (Entries.erase name entries).Sorted := by
  induction entries with
  | nil => exact List.Pairwise.nil
  | cons first rest ih =>
    obtain ⟨least, later⟩ := List.pairwise_cons.1 sorted
    simp only [Entries.erase]
    split
    · exact ih later
    · exact List.pairwise_cons.2
        ⟨fun entry member => least entry (mem_of_mem_erase member), ih later⟩

end Entries

namespace Node

/-! ## Nodes of a tree -/

/-- Is the node a directory? -/
def isDir : Node → Bool
  | .file _ => false
  | .dir _ => true

/-- Is the node a file? -/
def isFile : Node → Bool
  | .file _ => true
  | .dir _ => false

/-- The entry of a directory with a given name. -/
def child? (node : Node) (name : FileName) : Option Node :=
  match node with
  | .file _ => none
  | .dir entries => Entries.lookup name entries

/-- The node that the names lead to. -/
def get? : Node → List FileName → Option Node
  | node, [] => some node
  | .file _, _ :: _ => none
  | .dir entries, name :: names => (Entries.lookup name entries).bind (get? · names)

@[simp]
theorem get?_nil (tree : Node) : tree.get? [] = some tree := by
  cases tree <;> rfl

theorem get?_append_singleton (tree : Node) (names : List FileName) (name : FileName) :
    tree.get? (names ++ [name]) = (tree.get? names).bind (·.child? name) := by
  induction names generalizing tree with
  | nil =>
    cases tree with
    | file octets => rfl
    | dir entries =>
      cases listed : Entries.lookup name entries <;> simp [get?, child?, listed]
  | cons first names ih =>
    cases tree with
    | file octets => rfl
    | dir entries =>
      cases listed : Entries.lookup first entries <;> simp [get?, listed, ih]

/-- Put a node where the names lead, in new directories where they are missing.  Below a file
nothing can be put, and the tree stays as it is. -/
def set (tree : Node) (names : List FileName) (node : Node) : Node :=
  match names, tree with
  | [], _ => node
  | _ :: _, .file octets => .file octets
  | name :: names, .dir entries =>
    .dir (Entries.insert name
      (set ((Entries.lookup name entries).getD (.dir [])) names node) entries)

/-- Take the node away that the names lead to. -/
def erase (tree : Node) (names : List FileName) : Node :=
  match names, tree with
  | [], tree => tree
  | _ :: _, .file octets => .file octets
  | [name], .dir entries => .dir (Entries.erase name entries)
  | name :: next :: names, .dir entries =>
    match Entries.lookup name entries with
    | none => .dir entries
    | some child => .dir (Entries.insert name (erase child (next :: names)) entries)

/-- Move a node from where the names `source` lead to where the names `target` lead. -/
def move (tree : Node) (source target : List FileName) : Node :=
  match tree.get? source with
  | none => tree
  | some moved => (tree.erase source).set target moved

/-! ## Ordered trees -/

/-- Every directory of an ordered tree lists its entries in order. -/
inductive Ordered : Node → Prop where
  | file (octets : List UInt8) : Ordered (.file octets)
  | dir (entries : Entries) (sorted : entries.Sorted)
      (below : ∀ entry ∈ entries, Ordered entry.2) : Ordered (.dir entries)

namespace Ordered

/-- An empty directory is ordered. -/
theorem empty : Ordered (.dir []) :=
  .dir [] List.Pairwise.nil (fun _ member => absurd member List.not_mem_nil)

theorem lookup {entries : Entries} {name : FileName} {node : Node}
    (ordered : Ordered (.dir entries)) (found : Entries.lookup name entries = some node) :
    Ordered node := by
  cases ordered with
  | dir _ _ below => exact below _ (Entries.mem_of_lookup found)

theorem insert {entries : Entries} {node : Node} (ordered : Ordered (.dir entries))
    (nodeOrdered : Ordered node) (name : FileName) :
    Ordered (.dir (Entries.insert name node entries)) := by
  cases ordered with
  | dir _ sorted below =>
    refine .dir _ (sorted.insert name node) ?_
    intro entry member
    rcases Entries.mem_insert member with same | behind
    · exact same ▸ nodeOrdered
    · exact below entry behind

theorem get? {tree node : Node} {names : List FileName} (ordered : Ordered tree)
    (found : tree.get? names = some node) : Ordered node := by
  induction names generalizing tree with
  | nil =>
    simp only [Node.get?, Option.some.injEq] at found
    exact found ▸ ordered
  | cons name names ih =>
    cases tree with
    | file octets => simp [Node.get?] at found
    | dir entries =>
      simp only [Node.get?, Option.bind_eq_some_iff] at found
      obtain ⟨child, listed, found⟩ := found
      exact ih (ordered.lookup listed) found

theorem set {tree node : Node} (ordered : Ordered tree) (nodeOrdered : Ordered node)
    (names : List FileName) : Ordered (tree.set names node) := by
  induction names generalizing tree with
  | nil => simpa [Node.set] using nodeOrdered
  | cons name names ih =>
    cases tree with
    | file octets => simpa [Node.set] using ordered
    | dir entries =>
      simp only [Node.set]
      refine ordered.insert (ih ?_) name
      cases listed : Entries.lookup name entries with
      | none => exact .empty
      | some child => exact ordered.lookup listed

theorem erase {tree : Node} (ordered : Ordered tree) (names : List FileName) :
    Ordered (tree.erase names) := by
  induction names generalizing tree with
  | nil => simpa [Node.erase] using ordered
  | cons name names ih =>
    cases tree with
    | file octets => cases names <;> simpa [Node.erase] using ordered
    | dir entries =>
      cases names with
      | nil =>
        cases ordered with
        | dir _ sorted below =>
          simp only [Node.erase]
          exact .dir _ (sorted.erase name)
            (fun entry member => below entry (Entries.mem_of_mem_erase member))
      | cons next names =>
        simp only [Node.erase]
        cases listed : Entries.lookup name entries with
        | none => exact ordered
        | some child => exact ordered.insert (ih (ordered.lookup listed)) name

theorem move {tree : Node} (ordered : Ordered tree) (source target : List FileName) :
    Ordered (tree.move source target) := by
  simp only [Node.move]
  cases found : tree.get? source with
  | none => exact ordered
  | some moved => exact (ordered.erase source).set (ordered.get? found) target

end Ordered

end Node

end ClassMove
