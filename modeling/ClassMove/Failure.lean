import ClassMove.Json.Value

/-!
# Failures

What can go wrong is a cause with the data that belongs to it, and hints on what
to do about it.  The cause decides the code, the wording and the details that are
reported, and whether a walk over many files may pass over it.
-/

namespace ClassMove

/-- Why something failed. -/
inductive Cause where
  /-- The settings file is not JSON of the expected form. -/
  | configSyntax (path : String)
  /-- Arguments are missing that cannot be guessed. -/
  | missingArgument (names : List String)
  /-- An argument has a value that cannot be used. -/
  | invalidArgument (field problem : String) (value? : Option String)
  /-- There is nothing to move. -/
  | sourceNotFound (path : String)
  /-- What should be moved is no file. -/
  | sourceNotFile (path : String)
  /-- The place to move to is taken. -/
  | destinationExists (path : String)
  /-- The file would change its dialect. -/
  | dialectMismatch (source destination sourceExtension : String)
      (destinationExtension? : Option String)
  /-- The way of moving is not available. -/
  | unsupported (mechanism : String)
  /-- The text is no class name. -/
  | invalidName (name : String) (path? : Option String)
  /-- The text is no package name. -/
  | invalidPackage (name : String) (path? : Option String)
  /-- The lines of a source file come in an order that they may not have. -/
  | malformed (path rule : String) (line? : Option Nat)
  /-- The operating system refused. -/
  | io (error : String) (context? : Option String)
  /-- A value could not be written as JSON. -/
  | json (error : String) (context? : Option String)
  /-- Something that should not happen. -/
  | unexpected (error : String)
deriving DecidableEq

namespace Cause

/-- The code of a cause, for programs. -/
def code : Cause → String
  | .configSyntax _ => "config.invalid_json"
  | .missingArgument _ => "validation.missing_argument"
  | .invalidArgument .. => "validation.invalid_argument"
  | .sourceNotFound _ => "move.source_not_found"
  | .sourceNotFile _ => "move.source_not_file"
  | .destinationExists _ => "move.destination_exists"
  | .dialectMismatch .. => "move.dialect_mismatch"
  | .unsupported _ => "move.unsupported"
  | .invalidName .. => "class.invalid_name"
  | .invalidPackage .. => "class.invalid_package"
  | .malformed .. => "source.malformed"
  | .io .. => "internal.io_error"
  | .json .. => "internal.json_error"
  | .unexpected _ => "internal.unexpected"

/-- The wording of a cause, for people. -/
def message : Cause → String
  | .configSyntax _ => "Invalid JSON in configuration"
  | .missingArgument _ => "Missing required argument"
  | .invalidArgument _ problem _ => "Invalid argument: " ++ problem
  | .sourceNotFound path => "Source file not found: " ++ path
  | .sourceNotFile path => "Source is not a regular file: " ++ path
  | .destinationExists path => "Destination already exists: " ++ path
  | .dialectMismatch _ _ sourceExtension destinationExtension? =>
    let shown :=
      match destinationExtension? with
      | some extension => "." ++ extension
      | none => "no extension"
    "Source and destination must share an extension (." ++ sourceExtension ++ " vs " ++ shown ++
      ")"
  | .unsupported mechanism => "Move mechanism '" ++ mechanism ++ "' is not implemented"
  | .invalidName name _ => "Invalid class name '" ++ name ++ "'"
  | .invalidPackage name _ => "Invalid package name '" ++ name ++ "'"
  | .malformed path rule _ => "Malformed source " ++ path ++ ": " ++ rule
  | .io .. => "IO error"
  | .json .. => "JSON error"
  | .unexpected _ => "Unexpected error"

/-- The data of a cause, by key, in the order of the keys. -/
def details : Cause → List (String × Json)
  | .configSyntax path => [("path", .string path)]
  | .missingArgument names => [("args", .strings names)]
  | .invalidArgument field problem value? =>
    [("field", .string field), ("problem", .string problem)] ++
      Json.field? "value" (value?.map .string)
  | .sourceNotFound path => [("path", .string path)]
  | .sourceNotFile path => [("path", .string path)]
  | .destinationExists path => [("path", .string path)]
  | .dialectMismatch source destination sourceExtension destinationExtension? =>
    [("destination", .string destination)] ++
      Json.field? "destinationExtension" (destinationExtension?.map .string) ++
      [("source", .string source), ("sourceExtension", .string sourceExtension)]
  | .unsupported mechanism => [("mechanism", .string mechanism)]
  | .invalidName name path? =>
    [("name", .string name)] ++ Json.field? "path" (path?.map .string)
  | .invalidPackage name path? =>
    [("name", .string name)] ++ Json.field? "path" (path?.map .string)
  | .malformed path rule line? =>
    Json.field? "line" (line?.map .number) ++
      [("path", .string path), ("rule", .string rule)]
  | .io error context? => Json.field? "context" (context?.map .string) ++ [("error", .string error)]
  | .json error context? =>
    Json.field? "context" (context?.map .string) ++ [("error", .string error)]
  | .unexpected error => [("error", .string error)]

/-- Does the cause only say that one file has no usable identity? -/
def isSkippable : Cause → Bool
  | .invalidName .. | .invalidPackage .. | .malformed .. => true
  | _ => false

end Cause

/-- A cause and hints on what to do about it. -/
structure Failure where
  cause : Cause
  hints : List String := []
deriving DecidableEq

namespace Failure

/-- The failure with this cause and no hint. -/
def of (cause : Cause) : Failure := ⟨cause, []⟩

/-- Add a hint behind those that are there. -/
def withHint (failure : Failure) (hint : String) : Failure :=
  { failure with hints := failure.hints ++ [hint] }

/-- The place to move to is taken. -/
def destinationExists (path : String) : Failure :=
  { cause := .destinationExists path
    hints := ["Remove the existing file or pick another destination"] }

/-- The way of moving is not available. -/
def unsupported (mechanism : String) : Failure :=
  { cause := .unsupported mechanism
    hints := ["Run without --git and stage the result with your VCS afterwards"] }

end Failure

end ClassMove
