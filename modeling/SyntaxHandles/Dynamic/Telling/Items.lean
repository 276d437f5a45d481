import SyntaxHandles.Dynamic.Telling.Sorting
import SyntaxHandles.Sequence.Pad

-- What lists and tuples do when they are told to.

namespace SyntaxHandles.Dynamic.Telling

def repeatedItems (items : List Value) (times : Value) : Part (List Value) := do
  let times ← countOf times
  checkRoom (times * items.length)
  return Sequence.repeated (if items.isEmpty then 0 else times) items

-- The place of an item between two others. Here none is no place.
def indexAmong (host : Host) (items : List Value) (item : Value) (places : List Value) :
    Part (Option Nat) := do
  if 2 < places.length then refuse
  let start ← (places[0]?.map placeOf).getD (return 0)
  let stop ← (places[1]?.map placeOf).getD (return mostPlace)
  let stretch := Stretch.ofPlaces items.length start stop
  return (← host.findIndex? item (stretch.cut items)).map (· + stretch.start)

def tellTuple (host : Host) (name : String) (items : List Value) (values : List Value) :
    Part Value := do
  match name, values with
  | "__len__", [] => return .int items.length
  | "__getitem__", [place] => itemAt items place
  | "__contains__", [item] => return .flag (← host.contains item items)
  | "__add__", [.tuple others _] => return .tuple (items ++ others)
  | "__mul__", [times] | "__rmul__", [times] => return .tuple (← repeatedItems items times)
  | "__getnewargs__", [] => return .tuple [.tuple items]
  | "count", [item] => return .int (← host.count item items)
  | "index", item :: places =>
    match ← indexAmong host items item places with
    | some place => return .int place
    | none => raise (.value "tuple.index(x): x not in tuple")
  | _, _ => refuse

-- The place of an item that there is.
def placeWithin (items : List Value) (place : Value) : Part Nat := do
  let n ← orRefuse place.whole?
  let n := fromEnd items.length n
  if n < 0 ∨ items.length ≤ n then raise .place
  return n.toNat

def insertAt (items : List Value) (place : Int) (item : Value) : List Value :=
  let place := (fromEnd items.length place).toNat
  items.take place ++ item :: items.drop place

def popFrom (identity : Nat) (items : List Value) (place : Int) : Part Value := do
  let n := fromEnd items.length place
  match (if n < 0 then none else items[n.toNat]?) with
  | none => raise .place
  | some item =>
    setList identity (items.eraseIdx n.toNat)
    return item

-- What was sorted until then stays when it cannot be sorted.
def sortList (host : Host) (identity : Nat) (items : List Value) : Part Unit := do
  let (items, problem) ← (sortedValues host items : Script Sorted)
  setList identity items
  match problem with
  | some problem => throw problem
  | none => return ()

-- Lists that grow item by item have some room left.
def roomOfItems (items : Nat) : Nat :=
  (List.range items).foldl (fun room size => if size < room then room
    else (size + 1 + (size + 1) / 8 + 6) / 4 * 4) 0

def tellList (host : Host) (name : String) (identity : Nat) (values : List Value) :
    Part Value := do
  let items ← listAt identity
  let set (items : List Value) : Part Value := done (setList identity items)
  match name, values with
  | "__len__", [] => return .int items.length
  | "__getitem__", [place] => itemAt items place
  | "__setitem__", [place, item] => set (items.set (← placeWithin items place) item)
  | "__delitem__", [place] => set (items.eraseIdx (← placeWithin items place))
  | "__contains__", [item] => return .flag (← host.contains item items)
  | "__add__", [.list other] => newList (items ++ (← listAt other))
  | "__mul__", [times] | "__rmul__", [times] => newList (← repeatedItems items times)
  | "__iadd__", [other] =>
    setList identity (items ++ (← elementsOf other))
    return .list identity
  | "__imul__", [times] =>
    setList identity (← repeatedItems items times)
    return .list identity
  | "__init__", [] => set []
  | "__init__", [other] =>
    setList identity []
    set (← elementsOf other)
  | "__sizeof__", [] => return .int (40 + 8 * roomOfItems items.length)
  | "append", [item] => set (items ++ [item])
  | "extend", [other] => set (items ++ (← elementsOf other))
  | "insert", [place, item] => set (insertAt items (← countOf place) item)
  | "pop", [] => popFrom identity items (-1)
  | "pop", [place] => popFrom identity items (← countOf place)
  | "remove", [item] =>
    match ← host.findIndex? item items with
    | some place => set (items.eraseIdx place)
    | none => raise (.value "list.remove(x): x not in list")
  | "index", item :: places =>
    match ← indexAmong host items item places with
    | some place => return .int place
    | none => raise (.value ((← host.inspect [] item) ++ " is not in list"))
  | "count", [item] => return .int (← host.count item items)
  | "copy", [] => newList items
  | "clear", [] => set []
  | "reverse", [] => set items.reverse
  | "sort", [] => done (sortList host identity items)
  | _, _ => refuse

end SyntaxHandles.Dynamic.Telling
