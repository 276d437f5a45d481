import SyntaxHandles.Dynamic.Parameter

-- Calls of functions as operations of sessions. Whatever a host calls, it comes down to one
-- operation of one session, or to a traversal.

namespace SyntaxHandles.Dynamic

inductive Request
  -- Asks the current session of the thread.
  | createIndex (options : IndexOptions)
  | parse (index : Held IndexHandle) (filename : String) (options : ParseOptions)
  | root (unit : Held UnitHandle)
  | dispose (session : Nat) (id : ResourceId)
  | askCursor (query : CursorQuery) (cursor : Held CursorToken)
  | askType (query : TypeQuery) (type : Held TypeToken)

-- Items and answers know the session that they come from.
inductive Reply
  | item (session : Nat) (item : SessionScript.Item)
  | answer (session : Nat) (answer : Answer)

-- The thread holds its current session itself, so what is made there needs no hold of its own.
def Request.perform (library : Native.Library) : Request → Operation Reply
  | createIndex options => do
    let session ← Thread.currentSession
    Thread.letGo session
    return .item session (.index (← Session.createIndex library session options))
  | parse index filename options => do
    return .item index.session
      (.unit (← Session.parse library index.session index.item filename options))
  | root unit => do
    return .item unit.session (.cursor (← Session.root unit.session unit.item))
  | dispose session id => do
    return .answer session (.flag (← Session.dispose session id))
  | askCursor query cursor => do
    return .answer cursor.session (← Session.askCursor library cursor.session query cursor.item)
  | askType query type => do
    return .answer type.session (← Session.askType library type.session query type.item)

inductive Invocation
  | request (request : Request)
  | visit (root : Held CursorToken) (callback : Value)

namespace Invocation

def notDisposable : String := "dispose() expects an Index or a TranslationUnit"

def notCallable : String := "visit_children() callback must be callable"

-- Tokens cannot be disposed of, as they keep nothing alive.
def dispose : Value → Except Raised Invocation
  | .held _ session (.index handle) => .ok (.request (.dispose session handle.id))
  | .held _ session (.unit handle) => .ok (.request (.dispose session handle.id))
  | _ => .error (.type (some notDisposable))

def ofCursor (query : CursorQuery) (cursor : Held CursorToken) : Except Raised Invocation :=
  .ok (.request (.askCursor query cursor))

def ofType (query : TypeQuery) (type : Held TypeToken) : Except Raised Invocation :=
  .ok (.request (.askType query type))

def of : (f : Function) → Arguments f.parameters → Except Raised Invocation
  | .createIndex, (exclude, display, ()) => .ok (.request (.createIndex ⟨exclude, display⟩))
  | .parse, (index, filename, args, flags, ()) =>
    .ok (.request (.parse index filename ⟨args, flags⟩))
  | .rootCursor, (unit, ()) => .ok (.request (.root unit))
  | .dispose, (handle, ()) => dispose handle
  | .cursorKind, (cursor, ()) => ofCursor .kind cursor
  | .cursorSpelling, (cursor, ()) => ofCursor .spelling cursor
  | .cursorDisplayName, (cursor, ()) => ofCursor .displayName cursor
  | .cursorLocation, (cursor, ()) => ofCursor .location cursor
  | .cursorType, (cursor, ()) => ofCursor .type cursor
  | .cursorRawComment, (cursor, ()) => ofCursor .rawComment cursor
  | .enumConstantValue, (cursor, ()) => ofCursor .enumConstantValue cursor
  | .underlyingType, (cursor, ()) => ofCursor .underlyingType cursor
  | .cursorResultType, (cursor, ()) => ofCursor .resultType cursor
  | .argumentCount, (cursor, ()) => ofCursor .argumentCount cursor
  | .argument, (cursor, index, ()) => ofCursor (.argument index) cursor
  | .isNullCursor, (cursor, ()) => ofCursor .isNull cursor
  | .typeKind, (type, ()) => ofType .kind type
  | .typeSpelling, (type, ()) => ofType .spelling type
  | .typeNullability, (type, ()) => ofType .nullability type
  | .typeResult, (type, ()) => ofType .result type
  | .typeArgumentCount, (type, ()) => ofType .argumentCount type
  | .typeArgument, (type, index, ()) => ofType (.argument index) type
  | .canonicalType, (type, ()) => ofType .canonical type
  | .pointeeType, (type, ()) => ofType .pointee type
  | .visitChildren, (root, callback, ()) =>
    if callback.isCallable then .ok (.visit root callback) else .error (.type (some notCallable))

-- What lists hold is kept elsewhere.
def ofCall (contents : Nat → List Value) (f : Function) (values : List Value)
    (named : List (String × Value)) : Except Raised Invocation := do
  let values ← bindAll f.parameters values named
  of f (← readAll contents f.parameters values)

end Invocation

end SyntaxHandles.Dynamic
