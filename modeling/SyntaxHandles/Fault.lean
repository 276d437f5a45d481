import SyntaxHandles.Resource
import SyntaxHandles.Text.Quoted

-- What can go wrong. Every fault leaves the program able to go on, and releasing never fails.

namespace SyntaxHandles

inductive Fault
  -- Input of the wrong shape; noticed before the native library is asked for anything.
  | invalidArgument (problem : String)
  -- The resource is gone, belongs to another registry, or is not what it is used as.
  | invalidHandle (id : ResourceId) (reason : String)
  -- The library made no unit of a file.
  | parseFailed (filename : String) (code : Int32)
  | resourceExhausted (kind : ResourceKind)
  | libraryUnavailable (problem : String)
  deriving DecidableEq, Repr

namespace Fault

def message : Fault → String
  | invalidArgument problem => "invalid argument: " ++ problem
  | invalidHandle id reason => "invalid handle " ++ id.text ++ ": " ++ reason
  | parseFailed filename code =>
    "failed to parse '" ++ filename ++ "' (libclang error code " ++ toString code ++ ")"
  | resourceExhausted kind => "native allocation failed while creating " ++ kind.text
  | libraryUnavailable problem => "libclang is unavailable: " ++ problem

-- All parts by name, for reports.
def inspect : Fault → String
  | invalidArgument problem => "InvalidArgument(" ++ Text.quoted problem ++ ")"
  | invalidHandle id reason =>
    "InvalidHandle \x7b id: " ++ id.inspect ++ ", reason: " ++ Text.quoted reason ++ " \x7d"
  | parseFailed filename code =>
    "ParseFailed \x7b filename: " ++ Text.quoted filename ++ ", code: " ++ toString code ++ " \x7d"
  | resourceExhausted kind => "ResourceExhausted(" ++ kind.name ++ ")"
  | libraryUnavailable problem => "LibraryUnavailable(" ++ Text.quoted problem ++ ")"

def isInvalidHandle : Fault → Bool
  | invalidHandle .. => true
  | _ => false

end Fault

-- Why a handle is refused.
namespace Refusal

def otherSession : String := "belongs to another session"

def disposed : String := "resource has been disposed"

def kindMismatch : String := "resource kind mismatch"

def typeMismatch : String := "resource type mismatch"

def notOwnedByUnit : String := "token is not owned by a translation unit"

def unitGone : String := "translation unit is disposed or belongs to another session"

end Refusal

end SyntaxHandles
