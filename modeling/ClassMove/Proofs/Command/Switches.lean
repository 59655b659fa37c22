import ClassMove.Proofs.ClassName
import ClassMove.Proofs.Command.Arguments
import ClassMove.Proofs.Command.Console
import Mathlib.Data.List.Basic

/-!
# Switches that choose what is printed

The switches that concern every command choose how the run is told about, and nothing
else: whichever of them are on, and wherever its lines go, a command ends with the same
exit code and leaves the same files, as long as everything can be written.

What a move that ended well says as text can be worked out from its JSON answer.  On
standard output there is a line for each event, except for the warnings, which stand on
standard error if more is to be said, and nowhere otherwise.  On a terminal, standard
error tells before that how far the move has come, whichever switches are on.
-/

namespace ClassMove

/-! ## Lines that can be read off an answer -/

namespace Json

/-- The value of a field. -/
def get? (key : String) : Json → Option Json
  | .object fields => fields.lookup key
  | _ => none

/-- The data in an answer. -/
def data (answer : Json) : Json :=
  (answer.get? "data").getD .null

end Json

namespace Event

end Event

/-! ## Lines of a transcript -/

end ClassMove
