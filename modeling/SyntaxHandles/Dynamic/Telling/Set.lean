import SyntaxHandles.Dynamic.Telling.Number

-- What sets do when they are told to, and how sets are made of what one meets in other values. A
-- set is a ring, in which hashes decide on the seats.

namespace SyntaxHandles.Dynamic.Telling

abbrev Ring := Sequence.Ring

def newSet (ring : Ring Value) : Part Value := do
  let identity ← (newIdentity : Script Nat)
  setRing identity ring
  return .set identity

def findItem? (host : Host) (ring : Ring Value) (item : Value) : Part (Option Nat) :=
  host.findKey? (ring.items.map fun item => (item, .nothing)) item

def isIn (host : Host) (ring : Ring Value) (item : Value) : Part Bool := do
  return (← findItem? host ring item).isSome

-- Of values that are the same, the one that is there stays.
def withItem (host : Host) (ring : Ring Value) (item : Value) : Part (Ring Value) := do
  if ← isIn host ring item then return ring
  else return ring.add ((UInt64.ofInt (← host.hash item)).toNat, item)

def withAll (host : Host) (ring : Ring Value) (items : List Value) : Part (Ring Value) :=
  items.foldlM (withItem host) ring

-- A ring with what one meets in another value. Where their number is known, room is made first.
def withAny (host : Host) (ring : Ring Value) (other : Value) : Part (Ring Value) := do
  match other with
  | .set identity =>
    let others ← ringAt identity
    if others.items.isEmpty then return ring
    else if ring.seats.isEmpty then return others.copied
    else withAll host (ring.reserve others.items.length) others.items
  | .table identity =>
    let entries ← tableAt identity
    withAll host (ring.reserve entries.length) (entries.map Prod.fst)
  | other => do withAll host ring (← elementsOf other)

def setOf (host : Host) (other : Value) : Part (Ring Value) :=
  withAny host { } other

def without (host : Host) (ring : Ring Value) (item : Value) : Part (Ring Value) := do
  match ← findItem? host ring item with
  | some place => return ring.leave place
  | none => return ring

def withoutAny (host : Host) (ring : Ring Value) (other : Value) : Part (Ring Value) := do
  return (← (← elementsOf other).foldlM (without host) ring).tidied

-- What is left of a ring is put into a new one, unless the other value is small or has to be gone
-- through.
def difference (host : Host) (ring : Ring Value) (other : Value) : Part (Ring Value) := do
  let isMuchLarger (count : Nat) : Bool := count < ring.items.length / 4
  let pick (others : Ring Value) : Part (Ring Value) := do
    withAll host { } (← ring.items.filterM fun item => do return !(← isIn host others item))
  match other with
  | .set identity =>
    let others ← ringAt identity
    if isMuchLarger others.items.length then withoutAny host ring.copied other else pick others
  | .table identity =>
    let entries ← tableAt identity
    if isMuchLarger entries.length then withoutAny host ring.copied other
    else pick (← setOf host other)
  | other => withoutAny host ring.copied other

-- Those items that are in the ring.
def common (host : Host) (ring : Ring Value) (items : List Value) : Part (Ring Value) := do
  withAll host { } (← items.filterM (isIn host ring))

-- Of two sets, one goes through the one that is not larger than the other.
def commonOf (host : Host) (ring : Ring Value) (other : Value) : Part (Ring Value) := do
  match other with
  | .set identity =>
    let others ← ringAt identity
    if ring.items.length < others.items.length then common host others ring.items
    else common host ring others.items
  | other => do common host ring (← elementsOf other)

def isSet (identity : Nat) (other : Value) : Bool :=
  other.isIdentical (.set identity)

-- What a set has in common with others, taken one by one. With itself it has all in common.
def commonOfAll (host : Host) (identity : Nat) (others : List Value) : Part (Ring Value) := do
  let ring ← ringAt identity
  match others with
  | [] => return ring.copied
  | other :: others =>
    let first ← if isSet identity other then pure ring.copied else commonOf host ring other
    others.foldlM (commonOf host) first

-- Items that are in the ring leave it, and others come.
def toggle (host : Host) (ring : Ring Value) (item : Value) : Part (Ring Value) := do
  match ← findItem? host ring item with
  | some place => return ring.leave place
  | none => return ring.add ((UInt64.ofInt (← host.hash item)).toNat, item)

def toggleAny (host : Host) (ring : Ring Value) (other : Value) : Part (Ring Value) := do
  let others ← match other with
    | .set identity => ringAt identity
    | other => setOf host other
  others.items.foldlM (toggle host) ring

-- What is in one of two values, but not in both.
def inOne (host : Host) (ring : Ring Value) (other : Value) : Part (Ring Value) := do
  ring.items.foldlM (toggle host) (← setOf host other)

-- Puts what one meets in another value into a set, item by item.
def putAny (host : Host) (identity : Nat) (other : Value) : Part Unit := do
  match other with
  | .set other =>
    if other ≠ identity then
      setRing identity (← withAny host (← ringAt identity) (.set other))
  | .table _ => setRing identity (← withAny host (← ringAt identity) other)
  | other => (← elementsOf other).forM fun item => do
    setRing identity (← withItem host (← ringAt identity) item)

-- Takes what one meets in another value out of a set, item by item. Of itself a set keeps nothing.
def takeAny (host : Host) (identity : Nat) (other : Value) : Part Unit := do
  if isSet identity other then setRing identity { }
  else
    (← elementsOf other).forM fun item => do
      setRing identity (← without host (← ringAt identity) item)
    setRing identity (← ringAt identity).tidied

-- Leaves in a set what is in one of it and another value, but not in both.
def keepOne (host : Host) (identity : Nat) (other : Value) : Part Unit := do
  if isSet identity other then setRing identity { }
  else setRing identity (← toggleAny host (← ringAt identity) other)

def combined? (host : Host) (a : Ring Value) (b : Value) : Operator → Option (Part (Ring Value))
  | .both => some (commonOf host a b)
  | .either => some (withAny host a.copied b)
  | .subtract => some (difference host a b)
  | .oneOf => some (inOne host a b)
  | _ => none

-- Changes a set in place.
def changed? (host : Host) (identity : Nat) (other : Value) : String → Option (Part Unit)
  | "__iand__" => some do setRing identity (← commonOfAll host identity [other])
  | "__ior__" => some (putAny host identity other)
  | "__isub__" => some (takeAny host identity other)
  | "__ixor__" => some (keepOne host identity other)
  | _ => none

-- What a set is made of, so that it can be made again.
def reduceSet (ring : Ring Value) : Part Value := do
  return .tuple [.class (.host "set"), .tuple [← newList ring.items], .nothing]

-- The first few seats have room in the set itself.
def roomOfSet (ring : Ring Value) : Nat :=
  200 + (if ring.size = 8 then 0 else 16 * ring.size)

-- What a set does beside what operators stand for.
def tellSetByName (host : Host) (name : String) (identity : Nat) (ring : Ring Value)
    (values : List Value) : Part Value := do
  let set (ring : Part (Ring Value)) : Part Value := done (do setRing identity (← ring))
  match name, values with
  | "__len__", [] => return .int ring.items.length
  -- No set is in a set, but one may ask.
  | "__contains__", [.set _] => return .flag false
  | "discard", [.set _] => return .nothing
  | "remove", [.set other] => host.missing (.set other)
  | "__contains__", [item] => return .flag (← isIn host ring item)
  | "__init__", [] | "clear", [] => set (return { })
  | "__init__", [other] =>
    setRing identity { }
    done (putAny host identity other)
  | "__reduce__", [] => reduceSet ring
  | "__sizeof__", [] => return .int (roomOfSet ring)
  | "add", [item] => set (withItem host ring item)
  | "discard", [item] => set (without host ring item)
  | "remove", [item] =>
    match ← findItem? host ring item with
    | some place => set (return ring.leave place)
    | none => host.missing item
  | "pop", [] =>
    match ring.items with
    | [] => raise (.key (Text.literal "pop from an empty set"))
    | item :: _ =>
      setRing identity (ring.leave 0)
      return item
  | "copy", [] => newSet ring.copied
  | "union", others => do
    let others := others.filter fun other => !isSet identity other
    newSet (← others.foldlM (withAny host) ring.copied)
  | "intersection", others => do newSet (← commonOfAll host identity others)
  | "difference", [] => newSet ring.copied
  | "difference", other :: others => do
    newSet (← others.foldlM (withoutAny host) (← difference host ring other))
  | "symmetric_difference", [other] => do newSet (← inOne host ring other)
  | "update", others => done (others.forM (putAny host identity))
  | "intersection_update", others => set (commonOfAll host identity others)
  | "difference_update", others => done (others.forM (takeAny host identity))
  | "symmetric_difference_update", [other] => done (keepOne host identity other)
  | "isdisjoint", [other] => return .flag !(← (← elementsOf other).anyM (isIn host ring))
  | "issubset", [other] =>
    let others ← setOf host other
    return .flag (← ring.items.allM (isIn host others))
  | "issuperset", [other] =>
    return .flag (← (← elementsOf other).allM (isIn host ring))
  | _, _ => refuse

-- Operators only work on two sets.
def tellSet (host : Host) (name : String) (identity : Nat) (values : List Value) :
    Part Value := do
  let ring ← ringAt identity
  match Operator.ofName? name, values with
  | some (operator, isRight), [.set other] =>
    let (a, b) := if isRight then (other, identity) else (identity, other)
    if (operator = .either || operator = .both) && a = b then newSet ring.copied
    else match combined? host (← ringAt a) (.set b) operator with
      | some ring => newSet (← ring)
      | none => refuse
  | some _, [_] => return .undecided
  | some _, _ => refuse
  | none, [other] =>
    match changed? host identity other name, other with
    | some change, .set _ =>
      change
      return .set identity
    | some _, _ => return .undecided
    | none, other => tellSetByName host name identity ring [other]
  | none, values => tellSetByName host name identity ring values

end SyntaxHandles.Dynamic.Telling
