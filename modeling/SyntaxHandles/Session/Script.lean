import SyntaxHandles.Native.Table
import SyntaxHandles.Session.Basic

-- Scripts over the sessions of one thread. A traversal can run further steps at each of its visits.

namespace SyntaxHandles.SessionScript

-- Settings are given as they are, or as a text that has to be read first.
inductive Options (α : Type)
  | given (options : α)
  | json (text : String)

def Options.read {α ε : Type} (ofJson? : String → Except ε α) : Options α → Except ε α
  | given options => .ok options
  | json text => ofJson? text

-- How a node or type is shown: by its place in the tables, as the one that is in no table, or as
-- one that the session refuses to look at.
inductive Shown
  | entry (n : Nat)
  | absent
  | stale
  deriving DecidableEq, Repr

inductive Decision
  | visit (decision : ChildVisit)
  | fail (problem : String)

-- What a visitor does at each visit: first by the number of the visit, then by the child.
structure Plan where
  byVisit : List Decision := []
  byChild : List (Shown × Decision) := []
  default : Option Decision := none

def Plan.decide (plan : Plan) (visit : Nat) (child : Shown) : Decision :=
  (plan.byVisit[visit]? <|> plan.byChild.lookup child <|> plan.default).getD (.visit .next)

inductive Step
  -- What a search for a library comes to from now on.
  | library (search : Except String Unit)
  | session (name : String)
  | current (name : String)
  | sameSession (name other : String)
  | dropSession (name : String)
  | createIndex (session : String) (options : Options IndexOptions) (label : Option String)
  | parse (session index filename : String) (options : Options ParseOptions)
      (label : Option String)
  | filename (session unit : String)
  | root (session unit : String) (label : Option String)
  | dispose (session item : String)
  | isAlive (session item : String)
  | askCursor (session item : String) (query : CursorQuery) (label : Option String)
  | askType (session item : String) (query : TypeQuery) (label : Option String)
  | same (item other : String)
  | inspect (item : String)
  -- Runs a body at the visits that have one. The child of each visit gets a label.
  | visit (session item : String) (plan : Plan) (bodies : List (Nat × List Step))
      (label : Option String)

inductive Item
  | index (handle : IndexHandle)
  | unit (handle : UnitHandle)
  | cursor (token : CursorToken)
  | type (token : TypeToken)

namespace Item

-- A token stands for its unit.
def id : Item → ResourceId
  | index handle => handle.id
  | unit handle => handle.id
  | cursor token => token.owner
  | type token => token.owner

def asIndex? : Item → Option IndexHandle
  | index handle => some handle
  | _ => none

def asUnit? : Item → Option UnitHandle
  | unit handle => some handle
  | _ => none

def asCursor? : Item → Option CursorToken
  | cursor token => some token
  | _ => none

def asType? : Item → Option TypeToken
  | type token => some token
  | _ => none

def same : Item → Item → Bool
  | index handle, index other => handle = other
  | unit handle, unit other => handle = other
  | cursor token, cursor other => CursorToken.same token other
  | type token, type other => TypeToken.same token other
  | _, _ => false

def inspect : Item → String
  | index handle => handle.inspect
  | unit handle => handle.inspect
  | cursor token => CursorToken.inspect token
  | type token => TypeToken.inspect token

end Item

inductive Value
  | nothing
  | flag (b : Bool)
  | text (text : String)
  | answer (answer : Answer)
  | cursor (shown : Shown) (token : CursorToken)
  | type (shown : Shown) (token : TypeToken)

mutual

inductive Outcome
  | ok (value : Value)
  | fault (fault : Fault)
  | badOptions (problem : String)
  | noSession
  | noItem
  | visited (result : Except Fault VisitOutcome) (seen : List Seen)

-- The outcome of a step, with the calls that were made before it and not reported yet, and those
-- that are its own.
inductive Report
  | mk (before : List Native.Call) (outcome : Outcome) (calls : List Native.Call)

inductive Seen
  | visit (child parent : Shown)
  | steps (reports : List Report)

end

end SyntaxHandles.SessionScript
