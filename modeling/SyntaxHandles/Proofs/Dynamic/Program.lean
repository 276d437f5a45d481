import SyntaxHandles.Dynamic.Run

-- Programs of a host that work with the interface. A program keeps what it gets under names, and
-- goes on by what it sees there. What becomes of a program is told twice. For the host it is what
-- comes of calling what the interface has under its names, of telling objects, and of entering and
-- leaving them. For the sessions it is what comes of asking them.

namespace SyntaxHandles.Dynamic

open Scripting
open SessionScript (Item)

-- What a program sees of a value, which is all but the identity.
inductive Sight
  | nothing
  | flag (b : Bool)
  | int (n : Int)
  | text (text : String)
  | location (location : SourceLocation)
  | held (session : Nat) (item : Item)
  -- What the programs here never get.
  | other

def Value.sight : Value → Sight
  | nothing => .nothing
  | flag b => .flag b
  | int n _ => .int n
  | text s _ => .text s
  | location _ place => .location place
  | held _ session item => .held session item
  | _ => .other

-- What a program writes itself.
inductive Literal
  | nothing
  | flag (b : Bool)
  | int (n : Int)
  | text (text : String)

namespace Literal

def value : Literal → Value
  | nothing => .nothing
  | flag b => .flag b
  | int n => .int n
  | text s => .text s

def sight (literal : Literal) : Sight :=
  literal.value.sight

end Literal

-- What a program gets something from. Objects are named as the program named them.
inductive Act
  | write (literal : Literal)
  | copy (object : String)
  -- What is not given has a default.
  | createIndex (exclude display : Option Bool)
  | parse (index filename : String) (args : Option (List String)) (flags : Option UInt32)
  | root (unit : String)
  | dispose (handle : String)
  | askCursor (query : CursorQuery) (cursor : String)
  | askType (query : TypeQuery) (type : String)
  -- What objects can be told.
  | tellDispose (handle : String)
  | tellRoot (unit : String)
  -- What objects have.
  | isAlive (handle : String)
  | filename (unit : String)
  | isValid (token : String)
  | rawKind (token : String)

inductive Program
  | done
  | raise (text : String)
  | act (act : Act) (name : String) (next : Program)
  -- Goes on by what is kept under a name, if anything is.
  | choose (name : String) (next : Option Sight → Program)
  | block (object : String) (body next : Program)
  -- Of the failures of the body some are handled.
  | attempt (body : Program) (catches : Failure → Bool) (handle : Failure → Program)
      (next : Program)
  -- The callback finds a node and its parent under two names, and leaves its answer under another
  -- one.
  | visit (root child parent : String) (callback : Program) (answer name : String) (next : Program)

section Hosts

variable (library : Native.Library) (fuel : Nat) (host : Host)

-- Keeps what comes of a part.
def keep (name : String) (part : Part Value) : Part Unit := do
  let value ← (identified (← part) : Script Value)
  (giveLabel (some name) value : Script Unit)

-- The function for a query, and what it takes beside the node.
def cursorCall : CursorQuery → String × List Expression
  | .kind => ("get_cursor_kind", [])
  | .spelling => ("get_cursor_spelling", [])
  | .displayName => ("get_cursor_display_name", [])
  | .location => ("get_cursor_location", [])
  | .type => ("get_cursor_type", [])
  | .rawComment => ("get_cursor_raw_comment", [])
  | .enumConstantValue => ("get_enum_constant_value", [])
  | .underlyingType => ("get_typedef_underlying_type", [])
  | .resultType => ("get_cursor_result_type", [])
  | .argumentCount => ("get_num_arguments", [])
  | .argument index => ("get_argument", [.value (.int index.toNat)])
  | .isNull => ("is_null_cursor", [])

def typeCall : TypeQuery → String × List Expression
  | .kind => ("get_type_kind", [])
  | .spelling => ("get_type_spelling", [])
  | .nullability => ("get_type_nullability", [])
  | .result => ("get_result_type", [])
  | .argumentCount => ("get_num_arg_types", [])
  | .argument index => ("get_arg_type", [.value (.int index.toNat)])
  | .canonical => ("get_canonical_type", [])
  | .pointee => ("get_pointee_type", [])

def Act.indexSettings (exclude display : Option Bool) : List (String × Expression) :=
  (exclude.map fun b => ("exclude_declarations_from_pch", .value (.flag b))).toList ++
    (display.map fun b => ("display_diagnostics", .value (.flag b))).toList

def Act.parseSettings (args : Option (List String)) (flags : Option UInt32) :
    List (String × Expression) :=
  (args.map fun args => ("args", .list (args.map fun text => .value (.text text)))).toList ++
    (flags.map fun flags => ("options", .value (.int flags.toNat))).toList

def Act.byHost : Act → Part Value
  | write literal => return literal.value
  | copy object => find object
  | createIndex exclude display =>
    callMember library fuel host "create_index" [] (indexSettings exclude display)
  | parse index file args flags =>
    callMember library fuel host "parse_translation_unit" [.label index, .value (.text file)]
      (parseSettings args flags)
  | root unit => callMember library fuel host "get_translation_unit_cursor" [.label unit] []
  | dispose handle => callMember library fuel host "dispose" [.label handle] []
  | askCursor query cursor =>
    callMember library fuel host (cursorCall query).1 (.label cursor :: (cursorCall query).2) []
  | askType query type =>
    callMember library fuel host (typeCall query).1 (.label type :: (typeCall query).2) []
  | tellDispose handle => do host.tell (← find handle) "dispose" (return [])
  | tellRoot unit => do host.tell (← find unit) "cursor" (return [])
  | isAlive handle => do host.getAttribute (← find handle) "is_alive"
  | filename unit => do host.getAttribute (← find unit) "filename"
  | isValid token => do host.getAttribute (← find token) "is_valid"
  | rawKind token => do host.getAttribute (← find token) "raw_kind"

-- An object is told of whatever makes the host leave it, and may take it for settled.
def unwind (entered : Entered) (c : Class) (arguments : List Value) (problem : Problem) :
    Part Unit := do
  let told := [.class c, ← makeException c arguments, .nothing]
  let answer ← host.tellOverriding entered.value entered.leave told
  if !(← host.truth answer) then throw problem

def Problem.ofClass : Problem → Class
  | raised problem => problem.ofClass
  | noObject => .host "NameError"

def Problem.arguments : Problem → List Value
  | raised problem => (problem.message.map fun text => .text text).toList
  | noObject => []

def within (object : String) (body : Part Unit) : Part Unit := do
  let entered ← enter host object
  let ended : Except Problem Unit ← body.run
  match ended with
  | .ok () => leave host entered none
  | .error problem => unwind host entered problem.ofClass problem.arguments problem

def handling (body : Part Unit) (catches : Failure → Bool) (handle : Failure → Part Unit) :
    Part Unit := do
  let ended : Except Problem Unit ← body.run
  match ended with
  | .ok () => return ()
  | .error problem =>
    let failure ← (failureOf host problem : Script Failure)
    if catches failure then handle failure else throw problem

-- One visit by a function of the host.
def visitOnce (session : Nat) (callback : Value → Value → Part Value)
    (child parent : CursorToken) : Script (Except Problem ChildVisit) := do
  let child ← wrap session (.cursor child)
  let parent ← wrap session (.cursor parent)
  let answer ← (callback child parent).run
  return answer.map Value.visit

def visiting (root : String) (callback : Value → Value → Part Value) : Part Value := do
  let root ← rootOf (.label root)
  let visit (child parent : CursorToken) :
      Scripting.Script (Visits Desk Unit) (Except Problem ChildVisit) :=
    aside (visitOnce root.session callback child parent)
  let (result, _) ← (traverse library fuel root.session refused visit root.item : Script _)
  return .int (Constant.raw (← result))

-- A callback as a function of the host, which answers nothing if it leaves no answer.
def calledBack (child parent : String) (callback : Part Unit) (answer : String)
    (childValue parentValue : Value) : Part Value := do
  (giveLabel (some child) childValue : Script Unit)
  (giveLabel (some parent) parentValue : Script Unit)
  callback
  return (← ask (·.labels.lookup answer)).getD .nothing

def Program.byHost : Program → Part Unit
  | done => return ()
  | raise text => Dynamic.raise (.key (Text.literal text))
  | act operation name next => do
    keep name (operation.byHost library fuel host)
    next.byHost
  | choose name next => do
    let known ← ask (·.labels.lookup name)
    (next (known.map Value.sight)).byHost
  | block object body next => do
    within host object body.byHost
    next.byHost
  | attempt body catches handle next => do
    handling host body.byHost catches fun failure => (handle failure).byHost
    next.byHost
  | visit root child parent callback answer name next => do
    keep name (visiting library fuel root (calledBack child parent callback.byHost answer))
    next.byHost

-- A program as a whole, and how it failed, if it did.
def Program.run (program : Program) : Script (Option Failure) := do
  let host := Host.ofDepth library Traversal.ample mostLevels
  let ended : Except Problem Unit ← (program.byHost library Traversal.ample host).run
  match ended with
  | .ok () => return none
  | .error problem => return some (← failureOf host problem)

end Hosts

end SyntaxHandles.Dynamic
