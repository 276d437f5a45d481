import SyntaxHandles.Scripting
import SyntaxHandles.Session.Script

-- Running session scripts. Every step holds the session that it works on while it lasts.

namespace SyntaxHandles.SessionScript

open Scripting

structure Desk where
  sessions : List (String × Nat) := []
  items : List (String × Item) := []

abbrev Script := Scripting.Script Desk

def settled : Except Fault Value → Outcome
  | .ok value => .ok value
  | .error fault => .fault fault

def Desk.bind (desk : Desk) (label : Option String) (item : Item) : Desk :=
  match label with
  | none => desk
  | some label => { desk with items := (label, item) :: desk.items }

def bindItem (label : Option String) (item : Item) : Script Unit :=
  modifyDesk (·.bind label item)

def unbindSession (name : String) : Script Unit :=
  modifyDesk fun desk => { desk with sessions := desk.sessions.filter (·.1 ≠ name) }

-- Gives a session a name. The one that had it loses its holder.
def bindSession (name : String) (key : Nat) : Script (Except Fault Value) := do
  let old := (← get).2.sessions.lookup name
  unbindSession name
  modifyDesk fun desk => { desk with sessions := (name, key) :: desk.sessions }
  match old with
  | none => return .ok .nothing
  | some old => perform do
    Thread.letGo old
    return .nothing

def within (name : String) (part : Nat → Script Outcome) : Script Outcome := do
  match (← get).2.sessions.lookup name with
  | none => return .noSession
  | some key =>
    let _ ← perform (Thread.hold key)
    let outcome ← part key
    let _ ← perform (Thread.letGo key)
    return outcome

def withItem {α : Type} (label : String) (kind : Item → Option α) (part : α → Script Outcome) :
    Script Outcome := do
  match ((← get).2.items.lookup label).bind kind with
  | none => return .noItem
  | some item => part item

def showName : Option Nat → Shown
  | some n => .entry n
  | none => .absent

-- How a session shows a token.
def showToken {ν : Type} (name : ν → Option Nat) (token : Token ν) (registry : Registry Resource) :
    Shown :=
  match token.unwrap registry with
  | .ok (.ok raw) => showName (name raw)
  | _ => .stale

def showCursor (token : CursorToken) (registry : Registry Resource) : Shown :=
  showToken Native.Table.cursorName token registry

def showType (token : TypeToken) (registry : Registry Resource) : Shown :=
  showToken Native.Table.typeName token registry

-- An answer, which gets a label if it is a node or a type.
def answer (key : Nat) (label : Option String) (result : Except Fault Answer) : Script Outcome := do
  let registry := (← get).1.sessions key
  match result with
  | .error fault => return .fault fault
  | .ok (.cursor token) =>
    bindItem label (.cursor token)
    return .ok (.cursor (showCursor token registry) token)
  | .ok (.type token) =>
    bindItem label (.type token)
    return .ok (.type (showType token registry) token)
  | .ok other => return .ok (.answer other)

-- A new handle, which gets a label.
def handle (label : Option String) (result : Except Fault Item) : Script Outcome := do
  match result with
  | .error fault => return .fault fault
  | .ok item =>
    bindItem label item
    return .ok (.text item.id.text)

-- One visit: it is noted, its body runs, and then it is decided how to go on.
def visit (key : Nat) (plan : Plan) (bodies : List (Nat × Script (List Report)))
    (label : Option String) (child parent : CursorToken) :
    Scripting.Script (Visits Desk Seen) (Except Fault ChildVisit) := do
  let count ← countVisit
  let registry := (← get).1.sessions key
  let shown := showCursor child registry
  note (.visit shown (showCursor parent registry))
  aside (bindItem (label.map (· ++ "." ++ toString count)) (.cursor child))
  if let some body := bodies.lookup count then note (.steps (← aside body))
  match plan.decide count shown with
  | .visit decision => return .ok decision
  | .fail problem => return .error (.invalidArgument problem)

-- A step with the calls around it.
def reported (step : Script Outcome) : Script Report := do
  let before ← report
  let outcome ← step
  return .mk before outcome (← report)

section

variable (library : Native.Library) (fuel : Nat)

mutual

def outcome : Step → Script Outcome
  | .library search => do
    setSearch search
    return .ok .nothing
  | .session name => do
    match ← perform Thread.start with
    | .error fault => return .fault fault
    | .ok key => return settled (← bindSession name key)
  | .current name => do
    match ← perform Thread.currentSession with
    | .error fault => return .fault fault
    | .ok key => return settled (← bindSession name key)
  | .sameSession name other => do
    let sessions := (← get).2.sessions
    match sessions.lookup name, sessions.lookup other with
    | some key, some key' => return .ok (.flag (key = key'))
    | _, _ => return .noSession
  | .dropSession name => do
    match (← get).2.sessions.lookup name with
    | none => return .ok (.flag false)
    | some key =>
      unbindSession name
      return settled ((← perform (Thread.letGo key)).map fun () => .flag true)
  | .createIndex name options label => within name fun key => do
    match options.read IndexOptions.ofJson? with
    | .error problem => return .badOptions problem
    | .ok options =>
      handle label ((← perform (Session.createIndex library key options)).map .index)
  | .parse name index filename options label => within name fun key =>
    withItem index Item.asIndex? fun index => do
      match options.read ParseOptions.ofJson? with
      | .error fault => return .fault fault
      | .ok options =>
        handle label ((← perform (Session.parse library key index filename options)).map .unit)
  | .filename name unit => within name fun key => withItem unit Item.asUnit? fun unit => do
    return settled ((← perform (Session.filename key unit)).map .text)
  | .root name unit label => within name fun key => withItem unit Item.asUnit? fun unit => do
    answer key label ((← perform (Session.root key unit)).map .cursor)
  | .dispose name item => within name fun key => withItem item some fun item => do
    return settled ((← perform (Session.dispose key item.id)).map .flag)
  | .isAlive name item => within name fun key => withItem item some fun item => do
    return settled ((← perform (Session.isAlive key item.id)).map .flag)
  | .askCursor name item query label => within name fun key =>
    withItem item Item.asCursor? fun token => do
      answer key label (← perform (Session.askCursor library key query token))
  | .askType name item query label => within name fun key =>
    withItem item Item.asType? fun token => do
      answer key label (← perform (Session.askType library key query token))
  | .same item other => withItem item some fun item => withItem other some fun other => do
    return .ok (.flag (item.same other))
  | .inspect item => withItem item some fun item => do
    return .ok (.text item.inspect)
  | .visit name item plan bodies label => within name fun key =>
    withItem item Item.asCursor? fun token => do
      let (result, seen) ←
        traverse library fuel key id (visit key plan (runBodies bodies) label) token
      return .visited result seen

def runSteps : List Step → Script (List Report)
  | [] => return []
  | step :: steps => do
    let first ← reported (outcome step)
    return first :: (← runSteps steps)

def runBody : Nat × List Step → Nat × Script (List Report)
  | (visit, steps) => (visit, runSteps steps)

-- A body without steps is none.
def runBodies : List (Nat × List Step) → List (Nat × Script (List Report))
  | [] => []
  | (_, []) :: bodies => runBodies bodies
  | body :: bodies => runBody body :: runBodies bodies

end

end

-- Drops the sessions that still have a name, in the order of their names.
def dropSessions : List (String × Nat) → Script Unit
  | [] => return ()
  | (name, key) :: sessions => do
    unbindSession name
    let _ ← perform (Thread.letGo key)
    dropSessions sessions

structure Transcript where
  steps : List Report
  -- The calls when the named sessions are dropped, and when the thread ends.
  atEnd : List Native.Call
  atExit : List Native.Call

def script (library : Native.Library) (fuel : Nat) (steps : List Step) : Script Transcript := do
  let steps ← runSteps library fuel steps
  dropSessions ((← get).2.sessions.mergeSort fun a b => !(b.1 < a.1))
  let atEnd ← report
  let _ ← perform Thread.exit
  return ⟨steps, atEnd, ← report⟩

def run (library : Native.Library) (steps : List Step) :
    Except Stop (Transcript × (Thread × Desk)) :=
  (script library Traversal.ample steps).run ({}, {})

end SyntaxHandles.SessionScript
