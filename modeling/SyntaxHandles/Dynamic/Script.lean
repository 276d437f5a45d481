import SyntaxHandles.Dynamic.Desk

-- Scripts that a host runs on the interface. Blocks and visitors hold further steps.

namespace SyntaxHandles.Dynamic

-- How a script writes a value.
inductive Expression
  | value (value : Value)
  -- Numbers and bytes that are read from a text.
  | int (digits : String)
  | float (numeral : String)
  | bytes (digits : String)
  | index (n : Int)
  | list (items : List Expression)
  | tuple (items : List Expression)
  -- A value that was given a label before.
  | label (name : String)
  -- What the interface has under a name.
  | member (name : String)
  -- An exception instead of a value.
  | raise (text : String)

-- What a visitor answers at each visit.
structure Plan where
  byVisit : List Expression := []
  default : Option Expression := none

def Plan.answer (plan : Plan) (visit : Nat) : Expression :=
  (plan.byVisit[visit]? <|> plan.default).getD (.value .nothing)

inductive Step
  -- What a search for a library comes to from now on.
  | library (search : Except String Unit)
  | names
  | member (name : String) (label : Option String)
  | ancestors (name : String)
  | documentation (name : String)
  | call (name : String) (values : List Expression) (named : List (String × Expression))
      (label : Option String)
  | get (object name : String) (label : Option String)
  | set (object name : String) (value : Expression)
  | tell (object name : String) (values : List Expression) (label : Option String)
  | inspect (object : String)
  | className (object : String)
  | same (a b : Expression)
  | differ (a b : Expression)
  | forget (object : String)
  -- A block enters an object and leaves it, if it is told so with an exception.
  | block (object : String) (body : List Step) (raise : Option String)
  -- Runs a body at the visits that have one. The child of each visit gets a label.
  | visit (root : Expression) (plan : Plan) (bodies : List (Nat × List Step))
      (label : Option String)

-- How a step shows what came of it: what is plain as it is, and everything else as it tells its
-- state.
inductive Shown
  | nothing
  | flag (b : Bool)
  | int (n : Int)
  | text (text : String)
  | list (items : List Shown)
  | inspected (text : String)

-- What a host says of a step that ended early.
inductive Failure
  | noObject
  -- An exception is named as its class is called then. Not all of them say more.
  | raised (className : String) (message : Option String)

mutual

inductive Outcome
  | ok (shown : Shown)
  | failed (failure : Failure)
  -- What was entered may be another object than the one that was asked for it.
  | block (isSame : Bool) (reports : List Report)
  | visited (result : Except Failure VisitOutcome) (seen : List Seen)

-- The outcome of a step, with the calls that were made before it and not reported yet, and those
-- that are its own.
inductive Report
  | mk (before : List Native.Call) (outcome : Outcome) (calls : List Native.Call)

-- Visits show their nodes as they were then.
inductive Seen
  | visit (child parent : String)
  | steps (reports : List Report)

end

end SyntaxHandles.Dynamic
