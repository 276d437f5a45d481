import SyntaxHandles.Proofs.Dynamic.Program
import SyntaxHandles.Proofs.Session.Scripts

-- What programs ask of the sessions behind the interface.

namespace SyntaxHandles.Dynamic

open Scripting
open SessionScript (Item)

-- The newest value under a name goes first.
abbrev Names := List (String × Sight)

-- A course of operations on sessions, which a failure may end.
abbrev Course := ExceptT Failure (Scripting.Script Names)

namespace Failure

-- The class of the exception that stands for a fault.
def className : Fault → String
  | .invalidArgument _ => "ValueError"
  | .invalidHandle .. => "InvalidHandleError"
  | .parseFailed .. => "ParseFailedError"
  | .resourceExhausted _ => "MemoryError"
  | .libraryUnavailable _ => "LibraryUnavailableError"

def ofFault (fault : Fault) : Failure :=
  raised (className fault) (some fault.message)

-- Something else was given than is wanted.
def misfit : Failure :=
  raised "TypeError" none

def noDisposable : Failure :=
  raised "TypeError" (some "dispose() expects an Index or a TranslationUnit")

def missing : Failure :=
  raised "AttributeError" none

end Failure

namespace Course

def fail {α : Type} (failure : Failure) : Course α :=
  throw failure

def operate {α : Type} (operation : Operation α) : Course α := do
  match ← (perform operation : Scripting.Script Names _) with
  | .ok value => return value
  | .error fault => throw (.ofFault fault)

def known? (name : String) : Course (Option Sight) := do
  return (← (desk : Scripting.Script Names Names)).lookup name

def known (name : String) : Course Sight := do
  match ← known? name with
  | some sight => return sight
  | none => fail .noObject

def keep (name : String) (sight : Sight) : Course Unit :=
  (modifyDesk ((name, sight) :: ·) : Scripting.Script Names Unit)

-- What is wanted of something of a session, with the session.
def held {α : Type} (want : Item → Option α) (failure : Failure) (name : String) :
    Course (Nat × α) := do
  match ← known name with
  | .held session item =>
    match want item with
    | some wanted => return (session, wanted)
    | none => fail failure
  | _ => fail failure

end Course

namespace Sight

def ofText : Option String → Sight
  | some s => .text s
  | none => .nothing

def ofAnswer (session : Nat) : Answer → Sight
  | .number n => .int n
  | .flag b => .flag b
  | .text s => .text s
  | .optionalText s => ofText s
  | .location place => .location place
  | .nullability n => .int (Constant.raw n)
  | .cursor token => .held session (.cursor token)
  | .type token => .held session (.type token)

-- Only some numbers decide something.
def decision : Option Sight → ChildVisit
  | some (.int 0) => .halt
  | some (.int 2) => .recurse
  | _ => .next

end Sight

-- What can be disposed of.
def handle? : Item → Option ResourceId
  | .index handle => some handle.id
  | .unit handle => some handle.id
  | _ => none

-- Whether a session still lets a token be used.
def validity? : Item → Option (Nat → Operation Bool)
  | .cursor token => some fun session => Session.isValid session token
  | .type token => some fun session => Session.isValid session token
  | _ => none

def rawKind? : Item → Option Int32
  | .cursor token => some token.raw.kind
  | .type token => some token.raw.kind
  | _ => none

section

open Course

variable (library : Native.Library) (fuel : Nat)

def Act.bySession : Act → Course Sight
  | write literal => return literal.sight
  | copy object => known object
  | createIndex exclude display => operate do
    let session ← Thread.currentSession
    Thread.letGo session
    let options := ⟨exclude.getD false, display.getD false⟩
    return .held session (.index (← Session.createIndex library session options))
  | parse index file args flags => do
    let (session, index) ← held Item.asIndex? .misfit index
    let options := ⟨args.getD [], flags.getD 0⟩
    return .held session (.unit (← operate (Session.parse library session index file options)))
  | root unit => do
    let (session, unit) ← held Item.asUnit? .misfit unit
    return .held session (.cursor (← operate (Session.root session unit)))
  | dispose handle => do
    let (session, id) ← held handle? .noDisposable handle
    return .flag (← operate (Session.dispose session id))
  | askCursor query cursor => do
    let (session, token) ← held Item.asCursor? .misfit cursor
    return .ofAnswer session (← operate (Session.askCursor library session query token))
  | askType query type => do
    let (session, token) ← held Item.asType? .misfit type
    return .ofAnswer session (← operate (Session.askType library session query token))
  | tellDispose handle => do
    let (session, id) ← held handle? .missing handle
    return .flag (← operate (Session.dispose session id))
  | tellRoot unit => do
    let (session, unit) ← held Item.asUnit? .missing unit
    return .held session (.cursor (← operate (Session.root session unit)))
  | isAlive handle => do
    let (session, id) ← held handle? .missing handle
    return .flag (← operate (Session.isAlive session id))
  | filename unit => do
    let (session, unit) ← held Item.asUnit? .missing unit
    return .text (← operate (Session.filename session unit))
  | isValid token => do
    let (session, validity) ← held validity? .missing token
    return .flag (← operate (validity session))
  | rawKind token => do
    let (_, kind) ← held rawKind? .missing token
    return .int kind.toInt

-- Whatever ends the body, the resource is disposed of behind it.
def Course.within (object : String) (body : Course Unit) : Course Unit := do
  let (session, id) ← held handle? .misfit object
  let ended : Except Failure Unit ← body.run
  let _ ← operate (Session.dispose session id)
  match ended with
  | .ok () => return ()
  | .error failure => fail failure

def Course.handling (body : Course Unit) (catches : Failure → Bool)
    (handle : Failure → Course Unit) : Course Unit := do
  let ended : Except Failure Unit ← body.run
  match ended with
  | .ok () => return ()
  | .error failure => if catches failure then handle failure else fail failure

-- A callback that finds a node and its parent under two names and leaves its answer under another.
def Course.calledBack (session : Nat) (child parent : String) (callback : Course Unit)
    (answer : String) (node above : CursorToken) : Course ChildVisit := do
  Course.keep child (.held session (.cursor node))
  Course.keep parent (.held session (.cursor above))
  callback
  return Sight.decision (← known? answer)

-- What ends a callback ends the traversal of the session: a failure, or what no course goes on from.
def Course.visiting (root child parent : String) (callback : Course Unit) (answer : String) :
    Course Sight := do
  let (session, token) ← held Item.asCursor? .misfit root
  let visit (node above : CursorToken) :=
    answered (Course.calledBack session child parent callback answer node above).run
  let traversal : Course VisitOutcome := ExceptT.mk fun s =>
    concluded (Session.visitChildren library session (converted .ofFault) visit fuel token s)
  return .int (Constant.raw (← traversal))

def Program.bySession : Program → Course Unit
  | done => return ()
  | raise text => fail (.raised "KeyError" (some (Text.literal text)))
  | act operation name next => do
    Course.keep name (← operation.bySession library)
    next.bySession
  | choose name next => do
    (next (← known? name)).bySession
  | block object body next => do
    Course.within object body.bySession
    next.bySession
  | attempt body catches handle next => do
    Course.handling body.bySession catches fun failure => (handle failure).bySession
    next.bySession
  | visit root child parent callback answer name next => do
    Course.keep name
      (← Course.visiting library fuel root child parent callback.bySession answer)
    next.bySession

def Program.ask (program : Program) : Scripting.Script Names (Option Failure) := do
  let ended : Except Failure Unit ← (program.bySession library Traversal.ample).run
  match ended with
  | .ok () => return none
  | .error failure => return some failure

end

end SyntaxHandles.Dynamic
