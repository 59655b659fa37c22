import ClassMove.Command.Footprint
import ClassMove.Command.Run
import ClassMove.Files.Difference

/-!
# The program

Reads the part of the file system that the command concerns, runs the command on
it, carries out the changes and prints what there is to say.
-/

namespace ClassMove.Program

/-! ## Reading -/

/-- Is there a directory, a file or nothing at a place? -/
def kindOf (place : String) : IO (Option IO.FS.FileType) := do
  try
    let here ← IO.currentDir
    return some (← (here / place).metadata).type
  catch _ => return none

/-- The octets of the file at a place. -/
def octetsOf (place : String) : IO (List UInt8) := do
  return (← IO.FS.readBinFile place).toList

/-- The names listed in the directory at a place. -/
def namesIn (place : String) : IO (List String) := do
  let here ← IO.currentDir
  return (← (here / place).readDir).toList.map (·.fileName)

/-- The file system with the whole tree at a location.  Only source files are read. -/
partial def withTree (files : FileSystem) (location : Location) : IO FileSystem := do
  let place := location.display
  match ← kindOf place with
  | some .dir =>
    let mut files := files.makeDirAt location
    for listed in ← namesIn place do
      if let some name := FileName.ofText? listed.toList then
        files ← withTree files (location.descend [name])
    return files
  | some .file =>
    let isSource := (Dialect.ofLocation? location).isSome
    return files.writeAt location (← if isSource then octetsOf place else pure [])
  | _ => return files

/-- The file system with what a path leads to, and the directories that it passes. -/
def withPath (files : FileSystem) (path : Path) : IO FileSystem := do
  let mut files := files
  for count in [1 : path.pieces.length + 1] do
    let location := files.locationOf ⟨path.pieces.take count⟩
    if (files.find? location).isNone then
      match ← kindOf location.display with
      | some .dir => files := files.makeDirAt location
      | some .file => files := files.writeAt location (← octetsOf location.display)
      | _ => pure ()
  return files

/-! ## Writing -/

/-- Add what is new. -/
def addChange (place : String) : Change → IO Unit
  | .made => IO.FS.createDir place
  | .wrote octets => IO.FS.writeBinFile place ⟨octets.toArray⟩
  | _ => pure ()

/-- Take away what is gone. -/
def dropChange (place : String) : Change → IO Unit
  | .removedFile => IO.FS.removeFile place
  | .removedDir => IO.FS.removeDir place
  | _ => pure ()

/-- Carry out the changes between two trees.  Nothing is removed before all is written. -/
def carryOut (old new : Node) : IO Unit := do
  let changes := (old.changes new).map fun (names, change) => ((Location.mk names).display, change)
  for (place, change) in changes do addChange place change
  for (place, change) in changes do dropChange place change

/-! ## Running -/

/-- How the program is used. -/
def usage : String :=
  "Usage: classmv [-v] [--json] move [--base-dir DIR] [-n] [--git] SOURCE DESTINATION\n" ++
  "       classmv [-v] [--json] inspect [--base-dir DIR] FILE...\n"

/-- Print how a run ended and give its exit code. -/
def finish : Ending → IO UInt32
  | .usage code => do
    if code = 0 then IO.print usage else IO.eprint usage
    return code.toUInt32
  | .finished code stdout stderr => do
    IO.print stdout
    IO.eprint stderr
    return code.toUInt32

/-- The part of the file system that a run with these arguments concerns. -/
def filesFor (home? : Option Path) (arguments : List String) : IO FileSystem := do
  let current := Location.ofPath .root (.ofString (← IO.currentDir).toString)
  let mut files := FileSystem.empty current
  files ← withPath files current.toPath
  if let some home := home? then files ← withPath files (Settings.configPath home)
  match Invocation.ofArguments arguments with
  | .error _ => return files
  | .ok invocation =>
    for base in invocation.command.bases current (Settings.ofHome files home?) do
      files ← withTree (← withPath files base.toPath) base
    for path in invocation.command.mentioned do
      files ← withPath files path
    return files

/-- Run the program. -/
def run (arguments : List String) : IO UInt32 := do
  let home? := (← IO.getEnv "HOME").map Path.ofString
  let files ← filesFor home? arguments
  let console := { isTerminal := ← (← IO.getStderr).isTty }
  let (ending, after) := runProgram files home? arguments console
  carryOut files.tree after.tree
  finish ending

end ClassMove.Program

/-- The command line. -/
def main (arguments : List String) : IO UInt32 :=
  ClassMove.Program.run arguments
