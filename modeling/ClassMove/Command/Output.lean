import ClassMove.Inspect
import ClassMove.Move.Run

/-!
# What the command line prints

Results and failures as text for people and as JSON for programs.  A JSON answer is
an envelope that says whether the command succeeded and holds its data or its
failure; inside the data, keys come in order.
-/

namespace ClassMove

/-! ## Text -/

/-- Each line with a line break behind it. -/
def unlines (lines : List String) : String :=
  String.join (lines.map (· ++ "\n"))

/-- The value of a detail, without quotes around a string. -/
def detailText : Json → String
  | .string value => value
  | value => value.compact

/-- A failure as text. -/
def Failure.toLines (failure : Failure) : List String :=
  ("error: " ++ failure.cause.message) ::
    failure.cause.details.map (fun (key, value) => "  " ++ key ++ ": " ++ detailText value) ++
    failure.hints.map ("hint: " ++ ·)

/-- The exit code for a cause. -/
def Cause.exitCode : Cause → Nat
  | .malformed .. => 3
  | .configSyntax _ | .io .. | .json .. | .unexpected _ => 1
  | _ => 2

/-- The word for an agreement that may be unknown. -/
def verdict : Option Bool → String
  | some true => "yes"
  | some false => "no"
  | none => "unknown"

/-- The class, or a dash. -/
def classOrDash : Option ClassName → String
  | some name => name.display
  | none => "-"

/-- An inspection as text. -/
def Inspection.toLines (inspection : Inspection) : List String :=
  [inspection.path, "  location:   " ++ classOrDash inspection.location?,
    "  contents:   " ++ classOrDash inspection.contents?] ++
    inspection.imports.map (fun name => "  import:     " ++ name.display) ++
    ["  consistent: " ++ verdict inspection.consistent?] ++
    inspection.problems.map ("  problem:    " ++ ·)

/-! ## JSON -/

/-- The word for a dialect. -/
def Dialect.word : Dialect → String
  | .java => "java"
  | .groovy => "groovy"

/-- Classes by their qualified names. -/
def classesJson (names : List ClassName) : Json :=
  .strings (names.map ClassName.display)

/-- An updated file as a JSON value. -/
def UpdatedFile.toJson (file : UpdatedFile) : Json :=
  .object [("lines", .number file.lines), ("path", .string file.path)]

/-- The result of a move with what was told on the way. -/
def MoveResult.toJson (result : MoveResult) (dryRun : Bool) (events : List Event) : Json :=
  .object
    [("applied", .bool result.applied),
      ("base", .string result.base),
      ("command", .string "move"),
      ("dry_run", .bool dryRun),
      ("events", .array (events.map Event.toJson)),
      ("from", .string result.old.display),
      ("from_path", .string result.oldPath),
      ("to", .string result.new.display),
      ("to_path", .string result.newPath),
      ("updated_files", .array (result.updatedFiles.map UpdatedFile.toJson)),
      ("warnings", .number (Event.warningCount events))]

/-- An inspection as a JSON value. -/
def Inspection.toJson (inspection : Inspection) : Json :=
  .object
    ([("base", .string inspection.base),
        ("consistent", (inspection.consistent?.map Json.bool).getD .null)] ++
      Json.field? "contents" (inspection.contents?.map fun name => .string name.display) ++
      [("dialect", .string inspection.dialect.word),
        ("imports", classesJson inspection.imports)] ++
      Json.field? "location" (inspection.location?.map fun name => .string name.display) ++
      [("path", .string inspection.path), ("problems", .strings inspection.problems)])

/-- All inspections of one command. -/
def inspectionsJson (inspections : List Inspection) : Json :=
  .object [("command", .string "inspect"), ("files", .array (inspections.map Inspection.toJson))]

/-- A failure as a JSON value. -/
def Failure.toJson (failure : Failure) : Json :=
  .object
    ([("code", .string failure.cause.code), ("message", .string failure.cause.message),
        ("details", .object failure.cause.details)] ++
      Json.field? "hints"
        (if failure.hints.isEmpty then none
          else some (.array (failure.hints.map fun hint => .object [("message", .string hint)]))))

/-- The envelope around data or a failure. -/
def envelope : Except Failure Json → Json
  | .ok data => .object [("success", .bool true), ("data", data)]
  | .error failure => .object [("success", .bool false), ("error", failure.toJson)]

end ClassMove
