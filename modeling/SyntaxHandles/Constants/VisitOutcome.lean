import SyntaxHandles.Constants.Constant

-- How a traversal ended when nothing went wrong.

namespace SyntaxHandles

inductive VisitOutcome
  | completed
  | aborted
  deriving DecidableEq, Repr

instance : Constant VisitOutcome where
  all := [.completed, .aborted]
  name
    | .completed => "Completed"
    | .aborted => "Aborted"
  raw
    | .completed => 0
    | .aborted => 1
  exported
    | .completed => "TRAVERSAL_COMPLETED"
    | .aborted => "TRAVERSAL_ABORTED"

end SyntaxHandles
