import SyntaxHandles.Dynamic.Telling

-- Calls of whatever a host may call: functions of the interface, classes, and what classes have for
-- their objects. With them, a host can do all that it does with values.

namespace SyntaxHandles.Dynamic

open Scripting Telling

section

variable (library : Native.Library) (fuel : Nat)

def visitWith (host : Host) (session : Nat) (callback : Value) (child parent : CursorToken) :
    Scripting.Script (Visits Desk Unit) (Except Problem ChildVisit) := do
  let child ← aside (wrap session (.cursor child))
  let parent ← aside (wrap session (.cursor parent))
  let answer ← aside (host.call callback [child, parent]).run
  return answer.map Value.visit

def refused (fault : Fault) : Problem :=
  .raised (.fault fault)

def invoke (host : Host) (f : Function) (values : List Value) (named : List (String × Value)) :
    Part Value := do
  let contents ← ask Desk.listAt
  match ← orRaise (Invocation.ofCall contents f values named) with
  | .request request => fulfil library request
  | .visit root callback =>
    let visit := visitWith host root.session callback
    let (result, _) ← (traverse library fuel root.session refused visit root.item : Script _)
    return .int (Constant.raw (← result))

-- A feature does something for the first of the values.
def callFeature (host : Host) (giver : Class) (kind : FeatureKind) (name : String) :
    List Value → Part Value
  | [] => refuse
  | value :: values => do
    match kind, value with
    | .ofClass, .class c =>
      if c.ancestors.contains giver then tellBound host giver c name values else refuse
    | .ofClass, _ | .computed, _ | .stored, _ => refuse
    | _, _ =>
      checkFits giver value
      tellBy library host giver name value values

-- Something else may be given for an attribute that is missing.
def getOrElse (host : Host) (value : Value) (name : String) (default : Option Value) :
    Part Value := do
  let found : Except Problem Value ← (host.getAttribute value name).run
  match found, default with
  | .ok value, _ => return value
  | .error (.raised .noAttribute), some default => return default
  | .error problem, _ => throw problem

-- A class that was given ways of its own to make objects, or to set them up, uses these. What sets
-- an object up has nothing to answer.
def construct (host : Host) (c : Class) (values : List Value) : Part Value := do
  if !c.isOwn then return ← make host c values
  let entries := (← guiseOf c).entries
  let made ← match entries.lookup "__new__" with
    | some maker => host.call maker (.class c :: values)
    | none => make host c values
  if !(← classOf made).ancestors.contains c then return made
  match entries.lookup "__init__" with
  | none => return made
  | some callee => match ← host.tellOverriding made callee values with
    | .nothing => return made
    | _ => refuse

-- What is made then is told from what it was made, if it takes that.
def callGeneric (host : Host) (origin generic : Value) (values : List Value) : Part Value := do
  let made ← host.call origin values
  let told : Except Problem Unit ← (host.setAttribute made "__orig_class__" generic).run
  match told with
  | .ok () | .error (.raised .noAttribute) | .error (.raised (.type _)) => return made
  | .error problem => throw problem

def callWith (host : Host) (callee : Value) (values : List Value) : Part Value := do
  match callee, values with
  | .function f, values => invoke library fuel host f values []
  | .getter, [value, .text name _] => getOrElse host value name none
  | .getter, [value, .text name _, default] => getOrElse host value name (some default)
  | .class c, values => construct host c values
  | .generic _ origin .., values => callGeneric host origin callee values
  | .bound giver receiver name, values => tellBound host giver receiver name values
  | .told names giver name _, values =>
    callFeature library host giver .method name (.interface names :: values)
  | .feature giver kind name, values => callFeature library host giver kind name values
  | callee, values =>
    match ← overriding? callee "__call__" with
    | some own => host.tellOverriding callee own values
    | none => refuse

-- What a host can do that goes one step deeper than another.
def Host.deeper (host : Host) : Host where
  inspect := host.inspectValue
  plainText := host.plainTextOf
  compare := host.compareValues
  hash := host.hashOf
  call := callWith library fuel host

def Host.ofDepth : (depth : Nat) → Host
  | 0 => .exhausted
  | depth + 1 => (Host.ofDepth depth).deeper library fuel

-- Values that hold others are followed down to so many levels.
def mostLevels : Nat := 992

end

namespace Host

variable (host : Host)

-- The method is looked for before its arguments are evaluated.
def tell (value : Value) (name : String) (values : Part (List Value)) : Part Value := do
  match ← host.lookFor value name with
  | .plain callee => host.call callee (← values)
  | .method object giver kind name =>
    host.call (.feature giver kind name) (object :: (← values))

end Host

end SyntaxHandles.Dynamic
