import SyntaxHandles.Constants.CursorKind
import SyntaxHandles.Constants.ChildVisit
import SyntaxHandles.Constants.VisitOutcome
import SyntaxHandles.Constants.ParseFlag
import SyntaxHandles.Constants.Nullability
import SyntaxHandles.Constants.TypeKind

-- The flat table of all constants, as it is handed to hosts.

namespace SyntaxHandles.ConstantTable

-- Goes up by one whenever an entry of the table is added or changed.
def version : Nat := 1

def entries : List (String × Int) :=
  Constant.exports CursorKind ++ Constant.exports ChildVisit ++ Constant.exports VisitOutcome ++
    Constant.exports ParseFlag ++ Constant.exports Nullability ++ Constant.exports TypeKind

def lookup? (name : String) : Option Int :=
  entries.lookup name

end SyntaxHandles.ConstantTable
