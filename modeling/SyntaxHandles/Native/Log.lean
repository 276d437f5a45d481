import SyntaxHandles.Native.Value
import SyntaxHandles.Query

-- The calls that are made of the native library, in the order in which they are made, and what has
-- to be remembered between them: which numbers the library has given out, and how many still need
-- each index.

namespace SyntaxHandles.Native

-- Calls about a node or a type carry the number of the unit that it was taken from.
inductive Call
  | createIndex (exclude display : Bool) (index : Option Nat)
  | parse (index : Nat) (filename : String) (args : Option (List String)) (count : Int32)
      (flags : UInt32) (unit : Option Nat) (code : Int32)
  | disposeUnit (unit : Nat)
  | disposeIndex (index : Nat)
  | rootCursor (unit : Nat)
  | children (node : Cursor) (unit : Option Nat)
  | askCursor (query : CursorQuery) (node : Cursor) (unit : Option Nat)
  | askType (query : TypeQuery) (type : TypeValue) (unit : Option Nat)
  | fileName (node : Cursor) (unit : Option Nat)
  -- The call before this one has handed out a string.
  | makeString (string : Nat)
  | readString (string : Nat)
  | disposeString (string : Nat)
  deriving DecidableEq, Repr

-- Making and releasing resources and listing children are what a log reports.
def Call.isReported : Call → Bool
  | createIndex .. | parse .. | disposeUnit _ | disposeIndex _ | children .. => true
  | _ => false

structure State where
  indices : Nat := 0
  units : Nat := 0
  strings : Nat := 0
  -- How many hold an index: its entry in a registry, the units parsed with it, and a parse that is
  -- under way.
  shares : Nat → Nat := fun _ => 0
  -- Newest first.
  log : List Call := []
  -- How many of the calls have been asked for.
  reported : Nat := 0

namespace State

def note (state : State) (call : Call) : State :=
  { state with log := call :: state.log }

def share (state : State) (index : Nat) : State :=
  { state with shares := fun n => if n = index then state.shares n + 1 else state.shares n }

-- An index is freed when nobody holds it any more.
def unshare (state : State) (index : Nat) : State :=
  let left := state.shares index - 1
  let state := { state with shares := fun n => if n = index then left else state.shares n }
  if left = 0 then state.note (.disposeIndex index) else state

-- The calls since the last report, oldest first.
def report (state : State) : List Call × State :=
  let calls := state.log.take (state.log.length - state.reported)
  ((calls.filter (·.isReported)).reverse, { state with reported := state.log.length })

end State

end SyntaxHandles.Native
