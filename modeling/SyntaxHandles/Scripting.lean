import SyntaxHandles.Session.Basic

-- What scripts over a thread have in common. A script has a desk of its own beside the thread: the
-- names that it has given to things. The calls of the native library are reported piece by piece.

namespace SyntaxHandles.Scripting

-- What no script can go on from.
inductive Stop
  | conflict (conflict : Conflict)
  | outOfFuel

abbrev Script (σ : Type) := StateT (Thread × σ) (Except Stop)

variable {σ κ ε α : Type}

-- An operation on the thread; what goes wrong is an answer like any other.
def perform (operation : Operation α) : Script σ (Except Fault α) := do
  let (thread, desk) ← get
  let (result, thread) := operation.run thread
  set (thread, desk)
  match result with
  | .ok value => return .ok value
  | .error (.fault fault) => return .error fault
  | .error (.conflict conflict) => throw (.conflict conflict)

def desk : Script σ σ :=
  return (← get).2

def modifyDesk (f : σ → σ) : Script σ Unit :=
  modify fun (thread, desk) => (thread, f desk)

-- What a search for a library comes to from now on.
def setSearch (search : Except String Unit) : Script σ Unit :=
  modify fun (thread, desk) => ({ thread with search }, desk)

-- The calls since the last ones that were reported, oldest first.
def report : Script σ (List Native.Call) := do
  let (thread, desk) ← get
  let (calls, native) := thread.native.report
  set ({ thread with native }, desk)
  return calls

-- What a traversal keeps beside the thread: the desk, and what was noted of the visits so far,
-- newest first.
structure Visits (σ κ : Type) where
  desk : σ
  count : Nat := 0
  seen : List κ := []

-- Runs a script in the middle of a traversal.
def aside (script : Script σ α) : Script (Visits σ κ) α := fun (thread, visits) => do
  let (result, thread, desk) ← script.run (thread, visits.desk)
  return (result, thread, { visits with desk })

def note (entry : κ) : Script (Visits σ κ) Unit :=
  modifyDesk fun visits => { visits with seen := entry :: visits.seen }

-- Counts a visit. The first one has the number zero.
def countVisit : Script (Visits σ κ) Nat := do
  let count := (← desk).count
  modifyDesk fun visits => { visits with count := count + 1 }
  return count

-- What ends a traversal early.
inductive Halt (ε : Type)
  | problem (problem : ε)
  | stop (stop : Stop)

-- Walks the descendants of a node. What was noted is returned however the traversal ends.
def traverse (library : Native.Library) (fuel key : Nat) (refuse : Fault → ε)
    (visit : (child parent : CursorToken) → Script (Visits σ κ) (Except ε ChildVisit))
    (root : CursorToken) : Script σ (Except ε VisitOutcome × List κ) := fun (thread, desk) =>
  let convert : Interrupt → Halt ε
    | .fault fault => .problem (refuse fault)
    | .conflict conflict => .stop (.conflict conflict)
  let visit (child parent : CursorToken) (s : Thread × Visits σ κ) :
      Except (Halt ε) ChildVisit × (Thread × Visits σ κ) :=
    match (visit child parent).run s with
    | .error stop => (.error (.stop stop), s)
    | .ok (result, s) => (result.mapError .problem, s)
  match Session.visitChildren library key convert visit fuel root (thread, { desk }) with
  | none => .error .outOfFuel
  | some (.error (.stop stop), _) => .error stop
  | some (.error (.problem problem), thread, visits) =>
    .ok ((.error problem, visits.seen.reverse), thread, visits.desk)
  | some (.ok outcome, thread, visits) =>
    .ok ((.ok outcome, visits.seen.reverse), thread, visits.desk)

end SyntaxHandles.Scripting
