import SyntaxHandles.Dynamic.Access
import SyntaxHandles.Dynamic.Telling.Set

-- What tables do when they are told to, and what their views and mirrors do.

namespace SyntaxHandles.Dynamic.Telling

-- The entries of a table, or of what shows one.
def entriesOf? : Value → Part (Option (List (Value × Value)))
  | .table identity => some <$> tableAt identity
  | .mirror source _ => some <$> mirrored source
  | _ => return none

def notPair (place length : Nat) : String :=
  "dictionary update sequence element #" ++ toString place ++ " has length " ++ toString length ++
    "; 2 is required"

-- Puts pairs into a table one by one. Those before one that is none are put.
def putPairs (host : Host) (identity : Nat) (place : Nat) : List Value → Part Unit
  | [] => return ()
  | pair :: rest => do
    match ← elementsOf pair with
    | [key, value] =>
      setTable identity (← host.put (← tableAt identity) key value)
      putPairs host identity (place + 1) rest
    | parts => raise (.value (notPair place parts.length))

-- What says which keys it has is asked for each of them.
def keysOf? (host : Host) (value : Value) : Part (Option (List Value)) := do
  let keys : Except Problem Value ← (host.getAttribute value "keys").run
  match keys with
  | .ok callee => return some (← elementsOf (← host.call callee []))
  | .error (.raised .noAttribute) => return none
  | .error problem => throw problem

def putItems (host : Host) (identity : Nat) (other : Value) : List Value → Part Unit
  | [] => return ()
  | key :: keys => do
    let value ← host.itemOf other key
    setTable identity (← host.put (← tableAt identity) key value)
    putItems host identity other keys

-- Puts what another value has under its keys, or pairs, into a table.
def update (host : Host) (identity : Nat) (other : Value) : Part Unit := do
  match ← entriesOf? other with
  | some entries => setTable identity (← host.putAll (← tableAt identity) entries)
  | none => match ← keysOf? host other with
    | some keys => putItems host identity other keys
    | none => putPairs host identity 0 (← elementsOf other)

-- A table with the entries of two.
def mergedTable (host : Host) (a b : List (Value × Value)) : Part Value := do
  newTable (← host.putAll a b)

-- Takes the entry under a key out of a table. An empty table does not ask for hashes.
def popKey (host : Host) (identity : Nat) (key : Value) (default : Option Value) : Part Value := do
  let entries ← tableAt identity
  let place? ← if entries.isEmpty then pure none else host.findKey? entries key
  match place?.bind fun place => (entries[place]?).map (place, ·) with
  | some (place, _, value) =>
    setTable identity (entries.eraseIdx place)
    return value
  | none => match default with
    | some value => return value
    | none => host.missing key

def popLast (identity : Nat) : Part Value := do
  let entries ← tableAt identity
  match entries.getLast? with
  | some (key, value) =>
    setTable identity entries.dropLast
    return .tuple [key, value]
  | none => raise (.key (Text.literal "popitem(): dictionary is empty"))

-- What tables and their mirrors have under a key.
def getOr (host : Host) (entries : List (Value × Value)) (key : Value) (default : List Value) :
    Part Value := do
  if 1 < default.length then refuse
  return (← host.valueAt? entries key).getD (default.head?.getD .nothing)

-- The smallest size of a table for so many entries, where a third of it is never used.
def sizeOfTable (entries : Nat) : (fuel size : Nat) → Nat
  | 0, size => size
  | fuel + 1, size =>
    if entries ≤ 2 * size / 3 then size else sizeOfTable entries fuel (2 * size)

-- Tables that grow entry by entry have some room left. Texts alone take less of it.
def roomOfEntries (entries : List (Value × Value)) : Nat :=
  if entries.isEmpty then 0
  else
    let size := sizeOfTable entries.length entries.length 8
    let entrySize := if entries.all fun (key, _) => key.isText then 16 else 24
    32 + (if size < 256 then size else 2 * size) + entrySize * (2 * size / 3)

def tellTable (host : Host) (name : String) (identity : Nat) (values : List Value) :
    Part Value := do
  let entries ← tableAt identity
  match name, values with
  | "__len__", [] => return .int entries.length
  | "__getitem__", [key] => host.itemOf (.table identity) key
  | "__setitem__", [key, value] => done (do setTable identity (← host.put entries key value))
  | "__delitem__", [key] =>
    match ← host.findKey? entries key with
    | some place => done (setTable identity (entries.eraseIdx place))
    | none => host.missing key
  | "__contains__", [key] => return .flag (← host.findKey? entries key).isSome
  | "__or__", [.table other] => mergedTable host entries (← tableAt other)
  | "__ror__", [.table other] => mergedTable host (← tableAt other) entries
  | "__or__", [_] | "__ror__", [_] => return .undecided
  | "__ior__", [other] =>
    update host identity other
    return .table identity
  | "__init__", [] | "update", [] => return .nothing
  | "__init__", [other] | "update", [other] => done (update host identity other)
  | "__sizeof__", [] => return .int (48 + roomOfEntries entries)
  | "get", key :: default => getOr host entries key default
  | "setdefault", key :: default =>
    if 1 < default.length then refuse
    match ← host.valueAt? entries key with
    | some value => return value
    | none =>
      let value := default.head?.getD .nothing
      setTable identity (← host.put entries key value)
      return value
  | "pop", [key] => popKey host identity key none
  | "pop", [key, default] => popKey host identity key (some default)
  | "popitem", [] => popLast identity
  | "keys", [] => return .view .keys identity
  | "values", [] => return .view .values identity
  | "items", [] => return .view .items identity
  | "copy", [] => newTable entries
  | "clear", [] => done (setTable identity [])
  | _, _ => refuse

-- Whether a view of keys or of pairs has something.
def isInView (host : Host) (aspect : Aspect) (entries : List (Value × Value)) (value : Value) :
    Part Bool := do
  match aspect, value with
  | .keys, key => return (← host.findKey? entries key).isSome
  | .items, .tuple [key, value] _ =>
    match ← host.valueAt? entries key with
    | some other => host.isSame other value
    | none => return false
  | _, _ => return false

def anyInView (host : Host) (aspect : Aspect) (entries : List (Value × Value)) :
    List Value → Part Bool
  | [] => return false
  | value :: rest => do
    if ← isInView host aspect entries value then return true
    else anyInView host aspect entries rest

-- What is both in a view and elsewhere. One goes through the other values, unless these are a
-- larger view, or a set that is not smaller.
def commonInView (host : Host) (aspect : Aspect) (entries : List (Value × Value)) (other : Value) :
    Part (Sequence.Ring Value) := do
  let own := entries.map aspect.shown
  let within (items : List Value) : Part (Sequence.Ring Value) := do
    withAll host { } (← items.filterM (isInView host aspect entries))
  match other with
  | .set identity =>
    let others ← ringAt identity
    if own.length ≤ others.items.length then common host others own else within others.items
  | .view otherAspect table _ =>
    let others ← tableAt table
    if own.length < others.length then
      withAll host { } (← own.filterM (isInView host otherAspect others))
    else within (others.map otherAspect.shown)
  | other => do within (← elementsOf other)

-- A set of what one meets in a value. The keys of a table are counted first.
def setOfAny (host : Host) (value : Value) : Part (Sequence.Ring Value) :=
  match value with
  | .view .keys table _ => setOf host (.table table)
  | value => setOf host value

-- Views make sets. Only what both have is the same from both sides.
def combinedView (host : Host) (aspect : Aspect) (identity : Nat) (isRight : Bool)
    (other : Value) (operator : Operator) : Part Value := do
  let own := Value.view aspect identity
  let (a, b) := if isRight then (other, own) else (own, other)
  match operator with
  | .both => do newSet (← commonInView host aspect (← tableAt identity) other)
  | .either => do newSet (← withAny host (← setOfAny host a) b)
  | .subtract => do newSet (← withoutAny host (← setOfAny host a) b)
  | .oneOf => do newSet (← toggleAny host (← setOfAny host a) b)
  | _ => refuse

def tellView (host : Host) (name : String) (aspect : Aspect) (identity : Nat)
    (values : List Value) : Part Value := do
  let entries ← tableAt identity
  if let some (operator, isRight) := Operator.ofName? name then
    if let [other] := values then
      return ← combinedView host aspect identity isRight other operator
  match name, values with
  | "__len__", [] => return .int entries.length
  | "__contains__", [value] => return .flag (← isInView host aspect entries value)
  | "isdisjoint", [other] =>
    return .flag !(← anyInView host aspect entries (← elementsOf other))
  | _, _ => refuse

-- A view of what is mirrored. Of a class one sees what it has now.
def viewOf (aspect : Aspect) : Value → Part Value
  | .table identity => return .view aspect identity
  | source => do return .view aspect (← newTableAt (← mirrored source))

def tellMirror (host : Host) (name : String) (source : Value) (values : List Value) :
    Part Value := do
  let entries ← mirrored source
  match name, values with
  | "__len__", [] => return .int entries.length
  | "__getitem__", [key] => host.itemOf (.mirror source) key
  | "__contains__", [key] => return .flag (← host.findKey? entries key).isSome
  | "__or__", [other] | "__ror__", [other] =>
    match ← entriesOf? other with
    | some others =>
      if name = "__or__" then mergedTable host entries others else mergedTable host others entries
    | none => return .undecided
  | "get", key :: default => getOr host entries key default
  | "keys", [] => viewOf .keys source
  | "values", [] => viewOf .values source
  | "items", [] => viewOf .items source
  | "copy", [] => newTable entries
  | _, _ => refuse

end SyntaxHandles.Dynamic.Telling
