import SyntaxHandles.Dynamic.Comparison
import SyntaxHandles.Dynamic.Desk

-- What a host does with any value. A host does it down to some depth, so that what hosts do for one
-- kind of values can rest on what they do for the others.

namespace SyntaxHandles.Dynamic

structure Host where
  -- A text that tells the state of a value. What is being shown is not shown within itself.
  inspect : (shown : List Nat) → Value → Part String
  -- The text that a value stands for.
  plainText : Value → Part String
  -- What comes of a comparison when both sides were asked.
  compare : Comparison → Value → Value → Part Value
  -- A number by which equal values are found. Some values have none.
  hash : Value → Part Int
  call : Value → List Value → Part Value

-- Nothing can be done at no depth.
def Host.exhausted : Host where
  inspect _ _ := raise .endless
  plainText _ := raise .endless
  compare _ _ _ := raise .endless
  hash _ := raise .endless
  call _ _ := raise .endless

def textOf (text : String) : Part Value :=
  return .text text

def charsOf (chars : List Char) : Part Value :=
  return .chars chars

def done (part : Part Unit) : Part Value := do
  part
  return .nothing

-- What a class changed its own features to, if it did.
def overriding? (value : Value) (name : String) : Part (Option Value) := do
  let c ← classOf value
  if !c.isOwn then return none
  match (← guiseOf c).entries.lookup name with
  | some (.feature giver kind own) =>
    return if giver = c then none else some (.feature giver kind own)
  | found => return found

-- What the class of a value has for it under a name, or one of those that the class derives from.
def special? (value : Value) (name : String) : Part (Option Value) := do
  lookUp? name (← classOf value).ancestors

-- What a table shows of its entries.
def Aspect.shown (aspect : Aspect) (entry : Value × Value) : Value :=
  match aspect with
  | .keys => entry.1
  | .values => entry.2
  | .items => .tuple [entry.1, entry.2]

-- The entries of what can only be read.
def mirrored : Value → Part (List (Value × Value))
  | .table identity => tableAt identity
  | .class c => do
    return (← guiseOf c).entries.map fun (name, value) => (.text name, value)
  | _ => refuse

-- What one meets in a value one by one, if there is anything to meet.
def elements? : Value → Part (Option (List Value))
  | .list identity => some <$> listAt identity
  | .tuple items _ => return some items
  | .text s _ => return some (s.toList.map Value.char)
  | .bytes given _ => return some (given.map Value.byte)
  | .table identity => do return some ((← tableAt identity).map Prod.fst)
  | .set identity => do return some (← ringAt identity).items
  | .view aspect identity _ => do return some ((← tableAt identity).map aspect.shown)
  | .mirror source _ => do return some ((← mirrored source).map Prod.fst)
  | .generic _ origin arguments _ => return some [.generic true origin arguments]
  | _ => return none

def elementsOf (value : Value) : Part (List Value) := do
  orRefuse (← elements? value)

-- A text, where nothing else will do.
def asText : Value → Part String
  | .text text _ => return text
  | _ => refuse

namespace Host

variable (host : Host)

-- Calls what a class was given for its objects under a name.
def tellOverriding (value callee : Value) (values : List Value) : Part Value :=
  match callee with
  | .feature _ kind _ => host.call callee (if kind.isDoable then value :: values else values)
  | callee => host.call callee values

-- What is none, no number but zero, or empty, is as good as false.
def truth (value : Value) : Part Bool := do
  if let some callee ← overriding? value "__bool__" then
    match ← host.tellOverriding value callee [] with
    | .flag b => return b
    | _ => refuse
  if let some callee ← overriding? value "__len__" then
    match (← host.tellOverriding value callee []).whole? with
    | some n => return n ≠ 0
    | none => refuse
  match value with
  | .nothing => return false
  | .flag b => return b
  | .int n _ => return n ≠ 0
  | .float x _ => return x != 0
  | .complex x y _ => return x != 0 || y != 0
  | value => return (← elements? value).all fun items => !items.isEmpty

-- Parts are the same as themselves whatever they say.
def isSame (a b : Value) : Part Bool := do
  if a.isIdentical b then return true
  host.truth (← host.compare .equal a b)

def contains (item : Value) : List Value → Part Bool
  | [] => return false
  | other :: rest => do
    if ← host.isSame other item then return true else contains item rest

-- The place of the first item that is the same.
def findIndex? (item : Value) : List Value → Part (Option Nat)
  | [] => return none
  | other :: rest => do
    if ← host.isSame other item then return some 0
    else return (← findIndex? item rest).map (· + 1)

def count (item : Value) : List Value → Part Nat
  | [] => return 0
  | other :: rest => do
    let isOne ← host.isSame other item
    return (← count item rest) + (if isOne then 1 else 0)

-- Whether nothing but the value itself has its hash.
def isAlone (value : Value) : Part Bool := do
  if (← overriding? value "__hash__").isSome then return false
  else return value.isSeparate

-- The place of a key among entries. Keys whose hashes differ are not compared.
def findKey? (entries : List (Value × Value)) (key : Value) : Part (Option Nat) := do
  let _ ← host.hash key
  if ← isAlone key then
    return entries.findIdx? fun (other, _) => other.isIdentical key
  else
    let places := entries.zipIdx.map fun ((other, _), place) => (other, place)
    let others ← places.filterM fun (other, _) => do return !(← isAlone other)
    return (← host.findIndex? key (others.map Prod.fst)).bind fun place =>
      (others[place]?).map Prod.snd

def valueAt? (entries : List (Value × Value)) (key : Value) : Part (Option Value) := do
  return (← host.findKey? entries key).bind fun place => (entries[place]?).map Prod.snd

-- What is put anew stays in its place, under the key that is there.
def put (entries : List (Value × Value)) (key value : Value) : Part (List (Value × Value)) := do
  match ← host.findKey? entries key with
  | some place =>
    return entries.modify place fun (old, _) => (old, value)
  | none => return entries ++ [(key, value)]

def putAll (entries : List (Value × Value)) : List (Value × Value) → Part (List (Value × Value))
  | [] => return entries
  | (key, value) :: rest => do putAll (← host.put entries key value) rest

end Host

-- A number that says how often or how far.
def countOf (value : Value) : Part Int := do
  let n ← orRefuse value.whole?
  if n < Int64.minValue.toInt ∨ Int64.maxValue.toInt < n then raise .overflow
  return n

def mostPlace : Int := 0x7fffffffffffffff

-- A place in a sequence. What is too far off is at an end.
def placeOf (value : Value) : Part Int := do
  let n ← orRefuse value.whole?
  return max (-mostPlace - 1) (min mostPlace n)

-- A place, unless none is given.
def placeOr (default : Int) : Option Value → Part Int
  | none | some .nothing => return default
  | some value => placeOf value

-- A number of 32 bits.
def shortOf (value : Value) : Part Int := do
  let n ← orRefuse value.whole?
  if n < Int32.minValue.toInt ∨ Int32.maxValue.toInt < n then raise .overflow
  return n

-- Places below zero count from the end.
def fromEnd (length : Nat) (n : Int) : Int :=
  if n < 0 then n + length else n

-- The part of a sequence between two places, as its start and its end.
structure Stretch where
  start : Nat
  stop : Int

-- The end is at most that of the sequence, but the start is where it is.
def Stretch.ofPlaces (length : Nat) (start stop : Int) : Stretch where
  start := (fromEnd length start).toNat
  stop := max 0 (fromEnd length (min stop length))

def stretchOf (length : Nat) (values : List Value) : Part Stretch := do
  let start ← placeOr 0 values[0]?
  let stop ← placeOr mostPlace values[1]?
  return .ofPlaces length start stop

def Stretch.cut {α : Type} (stretch : Stretch) (items : List α) : List α :=
  (items.take stretch.stop.toNat).drop stretch.start

-- As many items as there is room for.
def mostRoom : Nat := 0x100000000

def checkRoom (items : Int) : Part Unit := do
  if mostRoom < items then raise .memory

-- The item at a place.
def itemAt (items : List Value) (place : Value) : Part Value := do
  let n ← orRefuse place.whole?
  if n < Int64.minValue.toInt ∨ Int64.maxValue.toInt < n then raise .place
  let n := fromEnd items.length n
  match (if n < 0 then none else items[n.toNat]?) with
  | some item => return item
  | none => raise .place

namespace Host

variable (host : Host)

-- What is missing is named by how it shows itself.
def missing {α : Type} (key : Value) : Part α := do
  raise (.key (← host.inspect [] key))

-- What a value has at a place or under a key.
def itemOf (value key : Value) : Part Value := do
  match value with
  | .table identity =>
    match ← host.valueAt? (← tableAt identity) key with
    | some value => return value
    | none => host.missing key
  | .mirror source _ =>
    match ← host.valueAt? (← mirrored source) key with
    | some value => return value
    | none => host.missing key
  | .list _ | .tuple .. | .text .. | .bytes .. => itemAt (← elementsOf value) key
  | value => match ← overriding? value "__getitem__" with
    | some callee => host.tellOverriding value callee [key]
    | none => refuse

end Host

end SyntaxHandles.Dynamic
