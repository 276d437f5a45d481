import SyntaxHandles.Dynamic.Host
import SyntaxHandles.Dynamic.Invocation

-- What the objects of a session do when they are told to: what comes of requests, and which
-- resources blocks work with.

namespace SyntaxHandles.Dynamic.Telling

-- What a host sees of a reply.
def valueOf : Reply → Script Value
  | .item session item => wrap session item
  | .answer session answer =>
    match answer with
    | .number n => return .int n
    | .flag b => return .flag b
    | .text text => return .text text
    | .optionalText text => return .textOrNothing text
    | .location location => return .location (← newIdentity) location
    | .nullability n => return .int (Constant.raw n)
    | .cursor token => wrap session (.cursor token)
    | .type token => wrap session (.type token)

def fulfil (library : Native.Library) (request : Request) : Part Value := do
  (valueOf (← attempt (request.perform library)) : Script Value)

-- What a block can enter: the resource that is disposed of when it leaves.
def resource? : Value → Option (Nat × ResourceId)
  | .held _ session (.index handle) => some (session, handle.id)
  | .held _ session (.unit handle) => some (session, handle.id)
  | _ => none

def dispose (library : Native.Library) (value : Value) : Part Value := do
  let (session, id) ← orRefuse (resource? value)
  fulfil library (.dispose session id)

def root (library : Native.Library) : Value → Part Value
  | .held _ session (.unit handle) => fulfil library (.root ⟨session, handle⟩)
  | _ => refuse

-- On leaving, an object is told in three words of any exception that makes it leave.
def tellHeld (library : Native.Library) (name : String) (value : Value) (values : List Value) :
    Part Value := do
  match name, values with
  | "cursor", [] => root library value
  | "dispose", [] => dispose library value
  | "__enter__", [] => return value
  | "__exit__", [_, _, _] =>
    let _ ← dispose library value
    return .flag false
  | _, _ => refuse

end SyntaxHandles.Dynamic.Telling
