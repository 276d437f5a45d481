import SyntaxHandles.Dynamic.Access
import SyntaxHandles.Dynamic.Telling.Bytes
import SyntaxHandles.Dynamic.Telling.Complex
import SyntaxHandles.Dynamic.Telling.Set
import SyntaxHandles.Dynamic.Telling.Table

-- What classes make when they are called, and what else a class can be told about what it makes.

namespace SyntaxHandles.Dynamic.Telling

def noBase : String := "int() base must be >= 2 and <= 36, or 0"

def baseOf (value : Value) : Part Nat := do
  let n ← placeOf value
  if n ≠ 0 ∧ (n < 2 ∨ 36 < n) then raise (.value noBase)
  return n.toNat

-- What the class of a value was given first, of some ways to say which number its objects stand
-- for.
def standIn? (host : Host) (value : Value) : List String → Part (Option Value)
  | [] => return none
  | name :: names => do
    match ← overriding? value name with
    | some callee => some <$> host.tellOverriding value callee []
    | none => standIn? host value names

def wholeFrom (host : Host) (value : Value) : Part Int := do
  match value with
  | .float x _ => orRaise (Real.whole x)
  | .text given _ => orRaise (Numeral.readInt 10 given)
  | .bytes given _ => orRaise (Numeral.readIntBytes 10 given)
  | value => match ← standIn? host value ["__int__", "__index__", "__trunc__"] with
    | some value => orRefuse value.number?
    | none => orRefuse value.whole?

def makeWhole (host : Host) : List Value → Part Value
  | [] => return .int 0
  | [value] => do return .int (← wholeFrom host value)
  | [value, base] => do
    let base ← baseOf base
    match value with
    | .text given _ => return .int (← orRaise (Numeral.readInt base given))
    | .bytes given _ => return .int (← orRaise (Numeral.readIntBytes base given))
    | _ => refuse
  | _ => refuse

def realFrom (host : Host) (value : Value) : Part Float := do
  match ← standIn? host value ["__float__"] with
  | some (.float x _) => return x
  | some _ => refuse
  | none => match ← standIn? host value ["__index__"] with
    | some value => orRaise (Whole.toFloat (← orRefuse value.number?))
    | none => orRaise (Whole.toFloat (← orRefuse value.whole?))

def makeReal (host : Host) : List Value → Part Value
  | [] => return .float 0
  | [.float x _] => return .float x
  | [.text given _] => do return .float (← orRaise (Numeral.readFloat given))
  | [.bytes given _] => do return .float (← orRaise (Numeral.readFloatBytes given))
  | [value] => do return .float (← realFrom host value)
  | _ => refuse

-- Bytes are read as text where an encoding is given. No bytes are no text in any of them.
def makeText (host : Host) : List Value → Part Value
  | [] => textOf ""
  | [.text text identity] => return .text text identity
  | [value] => do textOf (← host.plainText value)
  | value :: rest => do
    if 2 < rest.length then refuse
    let encoding ← nameAmong rest 0 "utf-8"
    let handling ← nameAmong rest 1 "strict"
    match value with
    | .bytes [] _ => textOf ""
    | .bytes bytes _ => do charsOf (← decoded (← encodingOf encoding) handling bytes)
    | _ => refuse

def notBytes : String := "bytes must be in range(0, 256)"

def byteFrom (value : Value) : Part UInt8 := do
  let n ← orRefuse value.whole?
  if n < 0 ∨ 255 < n then raise (.value notBytes)
  return UInt8.ofNat n.toNat

-- The bytes that a value has, or whose numbers one meets in it.
def bytesFrom (value : Value) : Part (List UInt8) := do
  match value with
  | .bytes bytes _ => return bytes
  | .text .. => refuse
  | value => (← elementsOf value).mapM byteFrom

-- A number makes as many bytes, all of which are zero.
def makeBytes : List Value → Part Value
  | [] => return .bytes []
  | [.bytes bytes identity] => return .bytes bytes identity
  | [value] => do
    match value.whole? with
    | none => return .bytes (← bytesFrom value)
    | some _ =>
      let n ← countOf value
      if n < 0 then raise (.value "negative count")
      checkRoom n
      return .bytes (List.replicate n.toNat 0)
  | value :: rest => do
    if 2 < rest.length then refuse
    let encoding ← nameAmong rest 0 "utf-8"
    let handling ← nameAmong rest 1 "strict"
    let chars ← ofChars.read value
    return .bytes (← encoded (← encodingOf encoding) handling chars)

def makeTuple : List Value → Part Value
  | [] => return .tuple []
  | [.tuple items identity] => return .tuple items identity
  | [value] => do return .tuple (← elementsOf value)
  | _ => refuse

def makeList : List Value → Part Value
  | [] => newList []
  | [value] => do newList (← elementsOf value)
  | _ => refuse

def makeDict (host : Host) : List Value → Part Value
  | [] => newTable []
  | [value] => do
    let identity ← newTableAt []
    update host identity value
    return .table identity
  | _ => refuse

def makeSet (host : Host) : List Value → Part Value
  | [] => newSet { }
  | [value] => do newSet (← setOf host value)
  | _ => refuse

def makeMirror : List Value → Part Value
  | [.table identity] => return .mirror (.table identity)
  | [.mirror source _] => return .mirror source
  | _ => refuse

-- What a class is told that its objects hold.
def held : Value → List Value
  | .tuple items _ => items
  | value => [value]

def makeGeneric : List Value → Part Value
  | [origin, arguments] => return .generic false origin (held arguments)
  | _ => refuse

-- What an interface is set up with is its name, and what it says of itself.
def setUpInterface (table : Nat) (values : List Value) : Part Value := do
  let (name, documentation) ← match values with
    | [name] => pure (name, .nothing)
    | [name, documentation] => pure (name, documentation)
    | _ => refuse
  putNamed table "__name__" (.text (← asText name))
  putNamed table "__doc__" documentation
  for other in ["__package__", "__loader__", "__spec__"] do putNamed table other .nothing
  return .nothing

def makeInterface (values : List Value) : Part Value := do
  let table ← newTableAt []
  let _ ← setUpInterface table values
  return .interface table

def makeFlag (host : Host) : List Value → Part Value
  | [] => return .flag false
  | [value] => do return .flag (← host.truth value)
  | _ => refuse

-- Exceptions are made from anything. Of the interface's other objects none is made by a call.
def make (host : Host) (c : Class) (values : List Value) : Part Value := do
  if c.isException then makeException c values
  else match c, values with
    | .host "type", [value] => return .class (← classOf value)
    | .host "NoneType", [] => return .nothing
    | .host "NotImplementedType", [] => return .undecided
    | .host "bool", values => makeFlag host values
    | .host "int", values => makeWhole host values
    | .host "float", values => makeReal host values
    | .host "str", values => makeText host values
    | .host "bytes", values => makeBytes values
    | .host "list", values => makeList values
    | .host "tuple", values => makeTuple values
    | .host "dict", values => makeDict host values
    | .host "set", values => makeSet host values
    | .host "complex", values => makeComplex values
    | .host "mappingproxy", values => makeMirror values
    | .host "GenericAlias", values => makeGeneric values
    | .host "module", values => makeInterface values
    | _, _ => refuse

-- What a class makes before it is set up. Lists and tables are empty then.
def makePlain (host : Host) (c : Class) (values : List Value) : Part Value :=
  if c = .classes then refuse
  else match c with
    | .host "list" => newList []
    | .host "dict" => newTable []
    | .host "set" => newSet { }
    | .host "module" => do return .interface (← newTableAt [])
    | c => make host c values

-- A class makes objects for those of its kind that are derived from it, unless these make their
-- own.
def makeFor (host : Host) (giver : Class) : List Value → Part Value
  | .class c :: values =>
    if !c.ancestors.contains giver || (c ≠ giver && !c.isException) ||
        (c.isException && !giver.isException) then refuse
    else makePlain host c values
  | _ => refuse

def wholeFromBytes (receiver : Class) (values : List Value) : Part Value := do
  match values with
  | value :: rest =>
    if 1 < rest.length then refuse
    if !(rest.all Value.isText) then refuse
    let isGreatestFirst ← isGreatestFirst rest.head?
    let bytes ← bytesFrom value
    let n := Whole.ofBytes (if isGreatestFirst then bytes else bytes.reverse)
    return if receiver = .host "bool" then .flag (n ≠ 0) else .int n
  | [] => refuse

def formatNames : String := "__getformat__() argument 1 must be 'double' or 'float'"

def realFormat (name : String) : Part Value :=
  if name = "double" || name = "float" then textOf "IEEE, little-endian"
  else raise (.value formatNames)

def tableFromKeys (host : Host) (keys value : Value) : Part Value := do
  newTable (← host.putAll [] ((← elementsOf keys).map fun key => (key, value)))

-- What a class can be told itself. `receiver` is the class that is told, and `giver` the one that
-- knows what to do.
def tellBound (host : Host) (giver receiver : Class) (name : String) (values : List Value) :
    Part Value :=
  match giver, name, values with
  | giver, "__new__", values => makeFor host giver values
  | _, "__subclasshook__", _ => return .undecided
  | _, "__init_subclass__", [] => return .nothing
  | _, "__prepare__", _ => newTable []
  | _, "__class_getitem__", [arguments] => return .generic false (.class receiver) (held arguments)
  | .host "int", "from_bytes", values => wholeFromBytes receiver values
  | .host "bytes", "fromhex", [.text given _] => do
    return .bytes (← orRaise (Numeral.readBytes given))
  | .host "float", "fromhex", [.text given _] => do
    return .float (← orRaise (Real.readHex given))
  | .host "float", "__getformat__", [.text name _] => realFormat name
  | .host "dict", "fromkeys", [keys] => tableFromKeys host keys .nothing
  | .host "dict", "fromkeys", [keys, value] => tableFromKeys host keys value
  | .host "str", "maketrans", values => makeTable host values
  | .host "bytes", "maketrans", values => makeByteTable values
  | _, _, _ => refuse

end SyntaxHandles.Dynamic.Telling
