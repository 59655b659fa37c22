import ClassMove.Listener
import ClassMove.Settings.Basic

/-!
# The base of a package tree

The base is given, or found: the nearest directory above the file that is named
like the base of a package tree, not further up than the settings allow.
-/

namespace ClassMove

/-- Is the last name of a location a marker? -/
def Location.isMarked (markers : List Text) (location : Location) : Bool :=
  match location.fileName? with
  | some name => name.isAmong markers
  | none => false

/-- The nearest of the first `maxAscent` directories above a location that has a marker's name. -/
def Location.detectBase? (markers : List Text) (maxAscent : Nat) (location : Location) :
    Option Location :=
  (location.ancestors.take maxAscent).find? (·.isMarked markers)

/-- The texts with a text between each two of them. -/
def joinWords (between : String) (words : List Text) : String :=
  between.intercalate (words.map Text.asString)

/-- The given base, or the one found above `source`.  A base that is not found is a warning as
well as a failure. -/
def resolveBaseTelling {Told : Type} [Listener Told] (told : Told) (files : FileSystem)
    (settings : Settings) (explicit? : Option Path) (source : Path) :
    Except Failure Location × Told :=
  match explicit? with
  | some base =>
    if files.isDir base then (.ok (files.locationOf base), told)
    else
      (.error (.of (.invalidArgument "base-dir" "Base directory does not exist"
        (some base.display))), told)
  | none =>
    match (files.locationOf source).detectBase? settings.baseMarkers settings.maxAscent with
    | some base => (.ok base, Listener.hear told files (.status (.foundBase base.display)))
    | none =>
      let message := "no ancestor directory named " ++ joinWords " or " settings.baseMarkers ++
        " within " ++ Nat.repr settings.maxAscent ++ " levels"
      (.error { cause := .missingArgument ["base-dir"]
                hints := ["Pass --base-dir pointing at the root of the package tree"] },
        Listener.hear told files
          (.event (.warning .baseDirNotFound (some source.display) message)))

/-- The given base, or the one found above `source`, with the events that are told. -/
def resolveBase (files : FileSystem) (settings : Settings) (explicit? : Option Path)
    (source : Path) : Except Failure Location × List Event :=
  resolveBaseTelling [] files settings explicit? source

end ClassMove
