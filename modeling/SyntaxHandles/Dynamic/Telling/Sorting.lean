import SyntaxHandles.Dynamic.Host

-- Sorting values whose order may be refused, and need not be one. Each value goes behind those
-- before it that it is not less than, which is found by halves. What has been done by then stays
-- when an order is refused.

namespace SyntaxHandles.Dynamic.Telling

-- An attempt at sorting: the values as they are now, and what stopped it.
abbrev Sorted := List Value × Option Problem

def isLess (host : Host) (a b : Value) : Part Bool := do
  host.truth (← host.compare .less a b)

-- How many values at the front are in order, which goes up or down. `last` is the one before.
def runLength (host : Host) (isDown : Bool) (last : Value) : List Value → Part Nat
  | [] => return 0
  | value :: rest => do
    if (← isLess host value last) == isDown then return (← runLength host isDown value rest) + 1
    else return 0

-- The place of a value among sorted ones, which is between two places.
def placeAmong (host : Host) (value : Value) (sorted : Array Value) :
    (fuel : Nat) → (first last : Nat) → Part Nat
  | 0, first, _ => return first
  | fuel + 1, first, last => do
    if first < last then
      let middle := first + (last - first) / 2
      match sorted[middle]? with
      | none => return first
      | some other =>
        if ← isLess host value other then placeAmong host value sorted fuel first middle
        else placeAmong host value sorted fuel (middle + 1) last
    else return first

-- Puts values among those that are sorted, one by one.
def insertAll (host : Host) (sorted : List Value) : List Value → Script Sorted
  | [] => return (sorted, none)
  | value :: rest => do
    let length := sorted.length
    match ← (placeAmong host value sorted.toArray length 0 length).run with
    | .error problem => return (sorted ++ value :: rest, some problem)
    | .ok place =>
      insertAll host (sorted.take place ++ value :: sorted.drop place) rest

def sortedValues (host : Host) (values : List Value) : Script Sorted := do
  match values with
  | [] | [_] => return (values, none)
  | first :: second :: rest =>
    let run : Part (Bool × Nat) := do
      let isDown ← isLess host second first
      return (isDown, (← runLength host isDown second rest) + 2)
    match ← run.run with
    | .error problem => return (values, some problem)
    | .ok (isDown, length) =>
      let front := values.take length
      insertAll host (if isDown then front.reverse else front) (values.drop length)

end SyntaxHandles.Dynamic.Telling
