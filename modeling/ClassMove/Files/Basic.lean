import ClassMove.Files.Cursor

/-!
# A file system

A file system is a tree and the directory that relative paths start from.  It
follows a spelled path piece by piece, the way an operating system does: each
piece but the first needs a directory to start from, so that `a/..` leads nowhere
when `a` is missing, although its location is known.

A path that holds a NUL, that spells nothing or that is too long is not followed at
all.

There are files and directories, and nothing else.  Symbolic links are left out: a name
leads to what its directory holds under it, never elsewhere.  Permissions are left out as
well: whatever is there can be read, listed and changed.
-/

namespace ClassMove

/-- A tree and the current directory. -/
structure FileSystem where
  tree : Node
  current : Location
  ordered : tree.Ordered

namespace FileSystem

/-- A file system without any file. -/
def empty (current : Location) : FileSystem :=
  ⟨.dir [], current, .empty⟩

/-- The node at a location. -/
def find? (files : FileSystem) (location : Location) : Option Node :=
  files.tree.get? location.names

/-- The location of a path, seen from the current directory. -/
def locationOf (files : FileSystem) (path : Path) : Location :=
  Location.ofPath files.current path

/-! ## Following a path -/

/-- What is refused before any piece of a path is followed. -/
def accept (path : Path) : Except OsError Unit :=
  if path.holdsNul then .error .nulInName
  else if path.isEmpty then .error .notFound
  else if path.isTooLong then .error .nameTooLong
  else .ok ()

/-- Where a path starts. -/
def start (files : FileSystem) (path : Path) : Except OsError Cursor :=
  if path.isAbsolute then .ok ⟨files.tree, []⟩
  else
    match Cursor.descend? ⟨files.tree, []⟩ files.current.names with
    | some cursor => .ok cursor
    | none => .error .notFound

/-- Follow pieces from the start of a path. -/
def follow (files : FileSystem) (path : Path) (pieces : List Piece) : Except OsError Cursor := do
  accept path
  let cursor ← files.start path
  pieces.foldlM Cursor.enter cursor

/-- Follow a path to its end. -/
def locate (files : FileSystem) (path : Path) : Except OsError Cursor :=
  files.follow path path.pieces

theorem within_of_start {files : FileSystem} {path : Path} {cursor : Cursor}
    (started : files.start path = .ok cursor) : cursor.Within files.tree := by
  simp only [start] at started
  split at started
  · exact Except.ok.inj started ▸ Cursor.within_root files.tree
  · split at started
    · next found =>
      exact Except.ok.inj started ▸ (Cursor.within_root files.tree).descend found
    · exact absurd started (by simp)

theorem within_of_foldlM_enter {tree : Node} {cursor last : Cursor} {pieces : List Piece}
    (within : cursor.Within tree) (followed : pieces.foldlM Cursor.enter cursor = .ok last) :
    last.Within tree := by
  induction pieces generalizing cursor with
  | nil => exact Except.ok.inj followed ▸ within
  | cons piece pieces ih =>
    cases entered : cursor.enter piece with
    | error refusal => simp [List.foldlM_cons, entered, bind, Except.bind] at followed
    | ok next =>
      simp only [List.foldlM_cons, entered] at followed
      exact ih (within.enter entered) followed

/-- What a path leads to is in the tree. -/
theorem within_of_follow {files : FileSystem} {path : Path} {pieces : List Piece}
    {cursor : Cursor} (followed : files.follow path pieces = .ok cursor) :
    cursor.Within files.tree := by
  simp only [follow] at followed
  cases accepted : accept path with
  | error refusal => simp [accepted, bind, Except.bind] at followed
  | ok _ =>
    cases started : files.start path with
    | error refusal => simp [accepted, started, bind, Except.bind] at followed
    | ok first =>
      simp only [accepted, started] at followed
      exact within_of_foldlM_enter (within_of_start started) followed

/-- The location that a path leads to holds the node that was found. -/
theorem find?_of_locate {files : FileSystem} {path : Path} {cursor : Cursor}
    (located : files.locate path = .ok cursor) :
    files.find? cursor.location = some cursor.node :=
  (within_of_follow located).get?

/-- The node that a path leads to. -/
def stat (files : FileSystem) (path : Path) : Except OsError Node :=
  (files.locate path).map Cursor.node

/-- Does the path lead anywhere? -/
def pathExists (files : FileSystem) (path : Path) : Bool :=
  match files.stat path with
  | .ok _ => true
  | .error _ => false

/-- Does the path lead to a directory? -/
def isDir (files : FileSystem) (path : Path) : Bool :=
  match files.stat path with
  | .ok node => node.isDir
  | .error _ => false

/-- The octets of the file that a path leads to. -/
def read (files : FileSystem) (path : Path) : Except OsError (List UInt8) :=
  match files.stat path with
  | .error refusal => .error refusal
  | .ok (.dir _) => .error .isDirectory
  | .ok (.file octets) => .ok octets

/-! ## Looking at a location -/

/-- The node at a location, if the plain spelling of the location is short enough to be followed. -/
def reach? (files : FileSystem) (location : Location) : Option Node :=
  match accept location.toPath with
  | .ok () => files.find? location
  | .error _ => none

/-- Is there a directory at the location? -/
def hasDir (files : FileSystem) (location : Location) : Bool :=
  (files.reach? location).any Node.isDir

end FileSystem

end ClassMove
