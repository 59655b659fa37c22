import ClassMove.Failure

/-!
# Refusals of an operating system

Each refusal has a wording of its own.  A path that holds a NUL is refused before
any operating system sees it, so its wording has no number.
-/

namespace ClassMove

/-- Why an operation on a file system is refused. -/
inductive OsError where
  | notFound
  | busy
  | exists
  | notDirectory
  | isDirectory
  | invalidArgument
  | nameTooLong
  | notEmpty
  | nulInName
deriving DecidableEq

namespace OsError

/-- The wording of a refusal, with its number. -/
def message : OsError → String
  | .notFound => "No such file or directory (os error 2)"
  | .busy => "Device or resource busy (os error 16)"
  | .exists => "File exists (os error 17)"
  | .notDirectory => "Not a directory (os error 20)"
  | .isDirectory => "Is a directory (os error 21)"
  | .invalidArgument => "Invalid argument (os error 22)"
  | .nameTooLong => "File name too long (os error 36)"
  | .notEmpty => "Directory not empty (os error 39)"
  | .nulInName => "file name contained an unexpected NUL byte"

/-- The refusal as a failure of what was being done. -/
def toFailure (refusal : OsError) (context : String) : Failure :=
  .of (.io refusal.message (some context))

end OsError

end ClassMove
