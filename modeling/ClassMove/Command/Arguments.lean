import ClassMove.Path.Basic

/-!
# Arguments of the command line

Arguments are read from left to right.  Switches that concern every command may
stand before or behind the name of the command, once in each place.  Asking for
help or for the version ends the reading at once, and so does any mistake; what is
missing is noticed at the end.
-/

namespace ClassMove

/-- Why reading ends before there is a command. -/
inductive Stop where
  /-- Help was asked for. -/
  | help
  /-- The version was asked for. -/
  | version
  /-- The arguments make no sense. -/
  | misuse
deriving DecidableEq

/-- What to do. -/
inductive Command where
  | move (source destination : Path) (baseDir? : Option Path) (dryRun git : Bool)
  | inspect (files : List Path) (baseDir? : Option Path)
deriving DecidableEq

/-- What to do and how to tell about it. -/
structure Invocation where
  verbose : Bool
  json : Bool
  command : Command
deriving DecidableEq

/-! ## Single arguments -/

/-- The form of an argument. -/
inductive Argument where
  /-- Two dashes: only words follow. -/
  | escape
  /-- Two dashes and a name, perhaps with a value behind an equals sign. -/
  | long (name : Text) (value? : Option Text)
  /-- A dash and letters. -/
  | short (letters : Text)
  /-- Anything else. -/
  | word (text : Text)
deriving DecidableEq

/-- Read the form of an argument. -/
def Argument.ofText : Text → Argument
  | ['-', '-'] => .escape
  | '-' :: '-' :: rest =>
    match rest.dropWhile (· != '=') with
    | [] => .long rest none
    | _ :: value => .long (rest.takeWhile (· != '=')) (some value)
  | '-' :: c :: rest => .short (c :: rest)
  | text => .word text

/-- What can be switched on. -/
inductive Switch where
  | verbose
  | json
  | help
  | version
  | dryRun
  | git
deriving DecidableEq

/-- Where an argument stands. -/
inductive Place where
  /-- Before the name of the command. -/
  | front
  | move
  | inspect
deriving DecidableEq

/-- The switch with a name. -/
def Switch.ofName? (place : Place) (name : Text) : Option Switch :=
  if name = "verbose".toList then some .verbose
  else if name = "json".toList then some .json
  else if name = "help".toList then some .help
  else if name = "version".toList ∧ place = .front then some .version
  else if name = "dry-run".toList ∧ place = .move then some .dryRun
  else if name = "git".toList ∧ place = .move then some .git
  else none

/-- The switch with a letter. -/
def Switch.ofLetter? (place : Place) (letter : Char) : Option Switch :=
  if letter = 'v' then some .verbose
  else if letter = 'h' then some .help
  else if letter = 'V' ∧ place = .front then some .version
  else if letter = 'n' ∧ place = .move then some .dryRun
  else none

/-! ## Reading -/

/-- What has been read so far at one place. -/
structure Reading where
  verbose : Bool := false
  json : Bool := false
  dryRun : Bool := false
  git : Bool := false
  baseDir? : Option Path := none
  words : List Path := []

namespace Reading

/-- Switch something on that is not on yet. -/
def turnOn (reading : Reading) : Switch → Except Stop Reading
  | .help => .error .help
  | .version => .error .version
  | .verbose => if reading.verbose then .error .misuse else .ok { reading with verbose := true }
  | .json => if reading.json then .error .misuse else .ok { reading with json := true }
  | .dryRun => if reading.dryRun then .error .misuse else .ok { reading with dryRun := true }
  | .git => if reading.git then .error .misuse else .ok { reading with git := true }

/-- Read letters behind a dash. -/
def addLetters (reading : Reading) (place : Place) (letters : Text) : Except Stop Reading :=
  letters.foldlM
    (fun reading letter =>
      match Switch.ofLetter? place letter with
      | some switch => reading.turnOn switch
      | none => .error .misuse)
    reading

/-- Read a name behind two dashes that takes no value. -/
def addName (reading : Reading) (place : Place) (name : Text) (value? : Option Text) :
    Except Stop Reading :=
  match Switch.ofName? place name, value? with
  | some switch, none => reading.turnOn switch
  | _, _ => .error .misuse

/-- Read the base directory, which may be given once. -/
def addBaseDir (reading : Reading) (value : Text) : Except Stop Reading :=
  if value = [] ∨ reading.baseDir?.isSome then .error .misuse
  else .ok { reading with baseDir? := some (.ofText value) }

/-- Read a path.  A move takes two of them. -/
def addWord (place : Place) (reading : Reading) (word : Text) : Except Stop Reading :=
  if word = [] ∨ (place = .move ∧ 2 ≤ reading.words.length) then .error .misuse
  else .ok { reading with words := reading.words ++ [.ofText word] }

/-- The name of the base directory's argument. -/
def baseDirName : Text := "base-dir".toList

/-- Read the arguments behind the name of a command. -/
def addArguments (place : Place) (reading : Reading) : List Text → Except Stop Reading
  | [] => .ok reading
  | text :: rest =>
    match Argument.ofText text with
    | .escape => rest.foldlM (addWord place) reading
    | .word word => do addArguments place (← reading.addWord place word) rest
    | .short letters => do addArguments place (← reading.addLetters place letters) rest
    | .long name value? =>
      if name = baseDirName then
        match value?, rest with
        | some value, rest => do addArguments place (← reading.addBaseDir value) rest
        | none, [] => .error .misuse
        | none, next :: rest =>
          match Argument.ofText next with
          | .word value => do addArguments place (← reading.addBaseDir value) rest
          | _ => .error .misuse
      else do addArguments place (← reading.addName place name value?) rest

/-- The command at a place, if nothing that it needs is missing. -/
def command (place : Place) (reading : Reading) : Except Stop Command :=
  match place, reading.words with
  | .move, [source, destination] =>
    .ok (.move source destination reading.baseDir? reading.dryRun reading.git)
  | .inspect, file :: files => .ok (.inspect (file :: files) reading.baseDir?)
  | _, _ => .error .misuse

end Reading

/-- The command with a name, which `move` has two of. -/
def Place.ofName? (name : Text) : Option Place :=
  if name = "move".toList ∨ name = "mv".toList then some .move
  else if name = "inspect".toList then some .inspect
  else none

/-- Help on one command or on all of them. -/
def helpOn : List Text → Stop
  | [] => .help
  | [name] => if (Place.ofName? name).isSome ∨ name = "help".toList then .help else .misuse
  | _ => .misuse

/-- Read the arguments up to the name of the command, and then the others. -/
def readArguments (front : Reading) : List Text → Except Stop Invocation
  | [] => .error .misuse
  | text :: rest =>
    match Argument.ofText text with
    | .escape => .error .misuse
    | .short letters => do readArguments (← front.addLetters .front letters) rest
    | .long name value? => do readArguments (← front.addName .front name value?) rest
    | .word word =>
      match Place.ofName? word with
      | some place => do
        let reading ← Reading.addArguments place {} rest
        let command ← reading.command place
        .ok ⟨front.verbose || reading.verbose, front.json || reading.json, command⟩
      | none => .error (if word = "help".toList then helpOn rest else .misuse)

/-- Read all arguments. -/
def Invocation.ofArguments (arguments : List String) : Except Stop Invocation :=
  readArguments {} (arguments.map String.toList)

end ClassMove
