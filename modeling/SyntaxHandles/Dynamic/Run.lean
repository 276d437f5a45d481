import SyntaxHandles.Dynamic.Call
import SyntaxHandles.Dynamic.Script

-- Running the scripts of a host.

namespace SyntaxHandles.Dynamic

open Scripting Telling

def member (name : String) : Part Value :=
  getAttribute Interface.own name

mutual

def evaluate : Expression → Part Value
  | .value value => (identified value : Script Value)
  | .int digits => do (identified (.int (← orRaise (Numeral.readInt 10 digits))) : Script Value)
  | .float numeral => do
    (identified (.float (← orRaise (Numeral.readFloat numeral))) : Script Value)
  | .bytes digits => do
    (identified (.bytes (← orRaise (Numeral.readBytes digits))) : Script Value)
  | .index n => (identified (.index n) : Script Value)
  | .list items => do newList (← evaluateAll items)
  | .tuple items => do (identified (.tuple (← evaluateAll items)) : Script Value)
  | .label name => find name
  | .member name => member name
  | .raise text => raise (.key (Text.literal text))

def evaluateAll : List Expression → Part (List Value)
  | [] => return []
  | item :: items => do
    let value ← evaluate item
    return value :: (← evaluateAll items)

end

def evaluateNamed (named : List (String × Expression)) : Part (List (String × Value)) := do
  return (named.map Prod.fst).zip (← evaluateAll (named.map Prod.snd))

-- A step with the calls around it.
def reported (step : Script Outcome) : Script Report := do
  let before ← report
  let outcome ← step
  return .mk before outcome (← report)

section

variable (library : Native.Library) (fuel : Nat) (host : Host)

-- What a list or a tuple holds is shown one by one.
def shownAt (depth : Nat) (value : Value) : Part Shown :=
  match depth with
  | 0 => raise .endless
  | depth + 1 => match value with
    | .nothing => return .nothing
    | .flag b => return .flag b
    | .int n _ => return .int n
    | .text text _ => return .text text
    | .list identity => do return .list (← (← listAt identity).mapM (shownAt depth))
    | .tuple items _ => do return .list (← items.mapM (shownAt depth))
    | value => return .inspected (← host.inspect [] value)

def shownAs (value : Value) : Part Shown :=
  shownAt host mostLevels value

-- A result, which gets a label.
def labelled (label : Option String) (part : Part Value) : Part Shown := do
  let value ← (identified (← part) : Script Value)
  (giveLabel label value : Script Unit)
  shownAs host value

-- The classes of the exceptions whose words are told. Some refusals of the interface have words,
-- too.
def spoken : List String :=
  ["ValueError", "KeyError", "MemoryError", "TypeError", Class.name .invalidHandle,
    Class.name .parseFailed, Class.name .libraryUnavailable]

-- What an exception of the interface says of itself. Its class may have been changed.
def spokenText (c : Class) (message : String) : Script (Option String) := do
  let text : Part String := do host.plainText (← makeException c [.text message])
  match ← text.run with
  | .ok text => return some text
  | .error _ => return none

def failureOf (problem : Problem) : Script Failure := do
  match problem with
  | .noObject => return .noObject
  | .raised raised =>
    let c := raised.ofClass
    let name := ((← desk).guise c).name.getD c.name
    match raised.message with
    | some message =>
      if !spoken.contains name then return .raised name none
      else if c.isOwn then return .raised name (← spokenText host c message)
      else return .raised name message
    | none => return .raised name none

def outcomeOf (part : Part Shown) : Script Outcome := do
  match ← part.run with
  | .ok shown => return .ok shown
  | .error problem => return .failed (← failureOf host problem)

-- What a block works with, what leaves it in the end, and whether the object itself was entered.
structure Entered where
  value : Value
  leave : Value
  isSame : Bool

def enter (label : String) : Part Entered := do
  let value ← find label
  let enter ← orRefuse (← special? value "__enter__")
  let leave ← orRefuse (← special? value "__exit__")
  let entered ← host.tellOverriding value enter []
  return { value, leave, isSame := entered.isIdentical value }

-- On leaving, an object is told of any exception that makes it leave, and may take it for settled.
def leave (entered : Entered) (exception : Option String) : Part Unit := do
  match exception with
  | none => do
    let _ ← host.tellOverriding entered.value entered.leave [.nothing, .nothing, .nothing]
  | some text =>
    let c := Class.host "KeyError"
    let told := [.class c, ← makeException c [.text text], .nothing]
    let answer ← host.tellOverriding entered.value entered.leave told
    if !(← host.truth answer) then raise (.key (Text.literal text))

-- The names of the classes that a class derives from, the class itself first.
def ancestorNames (name : String) : Part (List String) := do
  match ← member name with
  | .class c => c.ancestors.mapM nameOf
  | _ => raise .noAttribute

def publicNames : Part (List String) := do
  let names := (← tableAt Interface.table).filterMap fun (name, _) => textIn? name
  return Interface.sorted (names.filter fun name => !name.startsWith "_")

-- What the interface has under a name is called, or told by name if that is something to be told.
def callMember (name : String) (values : List Expression) (named : List (String × Expression)) :
    Part Value := do
  match ← lookFor Interface.own name with
  | .plain (.function f) => do
    let values ← evaluateAll values
    invoke library fuel host f values (← evaluateNamed named)
  | .plain callee => do
    let values ← evaluateAll values
    let named ← evaluateNamed named
    if named.isEmpty then host.call callee values else refuse
  | .method object giver kind name => do
    let values ← evaluateAll values
    let named ← evaluateNamed named
    if named.isEmpty then host.call (.feature giver kind name) (object :: values) else refuse

def isSame (a b : Expression) (c : Comparison) : Part Shown := do
  let a ← evaluate a
  let b ← evaluate b
  shownAs host (← host.compare c a b)

def rootOf (root : Expression) : Part (Held CursorToken) := do
  orRaise (Kind.read (← ask Desk.listAt) .cursor (← evaluate root))

-- One visit: it is noted, its body runs, and then it is decided how to go on.
def visitBy (session : Nat) (plan : Plan) (bodies : List (Nat × Script (List Report)))
    (label : Option String) (child parent : CursorToken) :
    Scripting.Script (Visits Desk Seen) (Except Problem ChildVisit) := do
  let count ← countVisit
  let child ← aside (wrap session (.cursor child))
  let parent ← aside (wrap session (.cursor parent))
  let noted ← aside (do return (← host.inspect [] child, ← host.inspect [] parent) : Part _).run
  if let .ok (child, parent) := noted then note (.visit child parent)
  aside (giveLabel (label.map (· ++ "." ++ toString count)) child)
  if let some body := bodies.lookup count then note (.steps (← aside body))
  let answer ← aside (evaluate (plan.answer count)).run
  return answer.map Value.visit

mutual

def outcome : Step → Script Outcome
  | .library search => do
    setSearch search
    return .ok .nothing
  | .names => outcomeOf host do return .list ((← publicNames).map .text)
  | .member name label => outcomeOf host (labelled host label (member name))
  | .ancestors name => outcomeOf host do return .list ((← ancestorNames name).map .text)
  | .documentation name => outcomeOf host do
    shownAs host (← host.getAttribute (← member name) "__doc__")
  | .call name values named label =>
    outcomeOf host (labelled host label (callMember library fuel host name values named))
  | .get object name label =>
    outcomeOf host (labelled host label (do host.getAttribute (← find object) name))
  | .set object name value => outcomeOf host do
    let owner ← find object
    host.setAttribute owner name (← evaluate value)
    return .nothing
  | .tell object name values label =>
    outcomeOf host (labelled host label (do host.tell (← find object) name (evaluateAll values)))
  | .inspect object => outcomeOf host do
    return .text (← host.inspect [] (← find object))
  | .className object => outcomeOf host do
    return .text (← nameOf (← classOf (← find object)))
  | .same a b => outcomeOf host (isSame host a b .equal)
  | .differ a b => outcomeOf host (isSame host a b .unequal)
  | .forget object => do
    let known := ((← desk).labels.lookup object).isSome
    unlabel object
    return .ok (.flag known)
  | .block object body exception => do
    match ← (enter host object).run with
    | .error problem => return .failed (← failureOf host problem)
    | .ok entered =>
      let reports ← runSteps body
      match ← (leave host entered exception).run with
      | .error problem => return .failed (← failureOf host problem)
      | .ok () => return .block entered.isSame reports
  | .visit root plan bodies label => do
    match ← (rootOf root).run with
    | .error problem => return .visited (.error (← failureOf host problem)) []
    | .ok root =>
      let visit := visitBy host root.session plan (runBodies bodies) label
      let (result, seen) ← traverse library fuel root.session refused visit root.item
      match result with
      | .ok result => return .visited (.ok result) seen
      | .error problem => return .visited (.error (← failureOf host problem)) seen

def runSteps : List Step → Script (List Report)
  | [] => return []
  | step :: steps => do
    let first ← reported (outcome step)
    return first :: (← runSteps steps)

def runBody : Nat × List Step → Nat × Script (List Report)
  | (visit, steps) => (visit, runSteps steps)

-- A body without steps is none.
def runBodies : List (Nat × List Step) → List (Nat × Script (List Report))
  | [] => []
  | (_, []) :: bodies => runBodies bodies
  | body :: bodies => runBody body :: runBodies bodies

end

end

-- The interface also has a list of all that it has, as it is to begin with.
def settle : Script Unit := do
  let names := ("__version__" :: Interface.members.map Prod.fst).map fun name => Value.text name
  let settled : Except Problem Unit ← (do
    putNamed Interface.table Interface.allNames (← newList names) : Part Unit).run
  match settled with
  | .ok () | .error _ => return ()

def run (interface : String) (library : Native.Library) (steps : List Step) :
    Except Stop (List Report × (Thread × Desk)) :=
  let fuel := Traversal.ample
  let host := Host.ofDepth library fuel mostLevels
  (do
    settle
    runSteps library fuel host steps : Script (List Report)).run ({}, .clear interface)

end SyntaxHandles.Dynamic
