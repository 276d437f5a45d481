import SyntaxHandles.Constants.Constant

-- What a visitor answers for each child: go on, go down, or stop everything.

namespace SyntaxHandles

inductive ChildVisit
  | halt
  | next
  | recurse
  deriving DecidableEq, Repr

instance : Constant ChildVisit where
  all := [.halt, .next, .recurse]
  name
    | .halt => "Break"
    | .next => "Continue"
    | .recurse => "Recurse"
  raw
    | .halt => 0
    | .next => 1
    | .recurse => 2
  exported
    | .halt => "CXChildVisit_Break"
    | .next => "CXChildVisit_Continue"
    | .recurse => "CXChildVisit_Recurse"

-- An answer that names no code means going on, and so does the absence of an answer.
def ChildVisit.ofAnswer (answer : Option Int) : ChildVisit :=
  (answer.bind Constant.ofRaw?).getD .next

end SyntaxHandles
