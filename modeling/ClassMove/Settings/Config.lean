import ClassMove.Files.Basic
import ClassMove.Json.Document
import ClassMove.Settings.Basic
import ClassMove.Text.Utf8

/-!
# The settings file

Settings are read from a JSON file in the configuration directory of the user.
When the file is missing or is not of the expected form, the usual settings hold.
-/

namespace ClassMove

/-- The text of the file at a path.  Failures say what it was read for. -/
def FileSystem.readText (files : FileSystem) (path : Path) (purpose : String) :
    Except Failure Text :=
  match files.read path with
  | .error refusal => .error (refusal.toFailure purpose)
  | .ok octets =>
    match Utf8.text? octets with
    | some text => .ok text
    | none => .error (.of (.io "stream did not contain valid UTF-8" (some purpose)))

namespace Settings

/-- Read settings from a record. -/
def ofDocument? (document : Document) : Option Settings := do
  let usual : Settings := {}
  let fields ←
    document.record? ["base_markers".toList, "max_ascent".toList, "skip_dirs".toList]
  match fields with
  | [markers, ascent, skip] =>
    some
      { baseMarkers := ← Document.orDefault usual.baseMarkers Document.texts? markers
        maxAscent := ← Document.orDefault usual.maxAscent Document.natural? ascent
        skipDirs := ← Document.orDefault usual.skipDirs Document.texts? skip }
  | _ => none

/-- Read settings from the text of a settings file. -/
def ofConfigText? (text : Text) : Option Settings := do
  let document ← Document.ofText? text
  match ← document.record? ["defaults".toList] with
  | [settings] => Document.orDefault {} ofDocument? settings
  | _ => none

/-- The name of the settings file. -/
def configName : String := "classmv.json"

/-- Read the settings file at a path. -/
def load (files : FileSystem) (path : Path) : Except Failure Settings :=
  if files.pathExists path then
    match files.readText path ("read " ++ path.display) with
    | .error failure => .error failure
    | .ok text =>
      match ofConfigText? text with
      | some settings => .ok settings
      | none => .error (.of (.configSyntax path.display))
  else .error (.of (.io (configName ++ " not found") (some path.display)))

/-- The settings file of a user with this home directory. -/
def configPath (home : Path) : Path :=
  ((home.join (.ofString ".config")).join (.ofString "classmv")).join (.ofString configName)

/-- The settings of a user, who may have no home directory. -/
def ofHome (files : FileSystem) (home? : Option Path) : Settings :=
  match home? with
  | none => {}
  | some home =>
    match load files (configPath home) with
    | .ok settings => settings
    | .error _ => {}

end Settings

end ClassMove
