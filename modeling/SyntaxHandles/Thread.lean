import SyntaxHandles.Native.Library
import SyntaxHandles.Native.Log

-- One thread of parsing: the library that it has loaded, its sessions, and the native resources
-- that are alive. A session is a registry of indices and units. It lives as long as someone holds
-- it; the current session of the thread is held by the thread itself.

namespace SyntaxHandles

-- An index, or a unit with the file and the index that it was parsed with.
inductive Resource
  | index (number : Nat)
  | unit (unit : Native.ParsedUnit) (filename : String) (index : Nat)
  deriving DecidableEq, Repr

namespace Resource

def asIndex? : Resource → Option Nat
  | index number => some number
  | unit .. => none

def asUnit? : Resource → Option (Native.ParsedUnit × String)
  | index _ => none
  | unit parsed filename _ => some (parsed, filename)

end Resource

-- Sessions are kept under the numbers in which they are started. Those with higher numbers than any
-- that was started are there as well, and empty.
structure Thread where
  -- What a search for a library would come to from now on, and whether one was loaded before.
  search : Except String Unit := .ok ()
  libraryLoaded : Bool := false
  sessions : Nat → Registry Resource := fun key => { id := UInt32.ofNat key }
  holders : Nat → Nat := fun _ => 0
  -- How many resources each session has come to own, those that are gone included.
  tracked : Nat → Nat := fun _ => 0
  started : Nat := 0
  current : Option Nat := none
  native : Native.State := {}

-- What ends an operation early. Nothing can be done about a conflict.
inductive Interrupt
  | fault (fault : Fault)
  | conflict (conflict : Conflict)

-- Operations keep what they have changed when they end early.
abbrev Operation := ExceptT Interrupt (StateM Thread)

namespace Thread

def fail {α : Type} (fault : Fault) : Operation α :=
  throw (.fault fault)

def settle {α : Type} : Except Conflict α → Operation α
  | .ok value => pure value
  | .error conflict => throw (.conflict conflict)

def raise {α : Type} : Except Fault α → Operation α
  | .ok value => pure value
  | .error fault => throw (.fault fault)

def session (key : Nat) : Operation (Registry Resource) := do
  return (← get).sessions key

def setSession (key : Nat) (registry : Registry Resource) : Operation Unit :=
  modify fun thread =>
    { thread with sessions := fun k => if k = key then registry else thread.sessions k }

def countTracked (key : Nat) : Operation Unit :=
  modify fun thread =>
    { thread with tracked := fun k => if k = key then thread.tracked k + 1 else thread.tracked k }

def natively (f : Native.State → Native.State) : Operation Unit :=
  modify fun thread => { thread with native := f thread.native }

def call (call : Native.Call) : Operation Unit :=
  natively (·.note call)

-- A library that was loaded stays loaded, whether or not it would be found again.
def load : Operation Unit := do
  if (← get).libraryLoaded then return
  match (← get).search with
  | .ok () => modify fun thread => { thread with libraryLoaded := true }
  | .error problem => fail (.libraryUnavailable problem)

def hold (key : Nat) : Operation Unit :=
  modify fun thread =>
    { thread with holders := fun k => if k = key then thread.holders k + 1 else thread.holders k }

-- Releases a resource that has left its registry. A unit goes before its share of the index.
def release : Resource → Operation Unit
  | .index number => natively (·.unshare number)
  | .unit unit _ index => do
    call (.disposeUnit unit.number)
    natively (·.unshare index)

-- Releases what is left of a session, newest first.
def drain (key : Nat) : Nat → Operation Unit
  | 0 => return ()
  | left + 1 => do
    let (newest, registry) ← settle (← session key).takeNewest
    setSession key registry
    match newest with
    | none => return ()
    | some resource =>
      release resource
      drain key left

-- Ends a hold; the last one to hold a session ends it.
def letGo (key : Nat) : Operation Unit := do
  let held := (← get).holders key
  modify fun thread =>
    { thread with holders := fun k => if k = key then held - 1 else thread.holders k }
  if held ≤ 1 then drain key ((← session key).liveCount + 1)

-- Starts a session, which the caller holds.
def start : Operation Nat := do
  load
  let key := (← get).started + 1
  modify fun thread => { thread with started := key }
  hold key
  return key

-- The current session is started when it is first asked for. The caller holds it as well.
def currentSession : Operation Nat := do
  load
  let key ← match (← get).current with
    | some key => pure key
    | none => do
      let key ← start
      modify fun thread => { thread with current := some key }
      pure key
  hold key
  return key

-- The thread lets go of its current session.
def exit : Operation Unit := do
  match (← get).current with
  | none => return ()
  | some key =>
    modify fun thread => { thread with current := none }
    letGo key

end Thread

end SyntaxHandles
