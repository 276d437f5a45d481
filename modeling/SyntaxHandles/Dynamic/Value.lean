import SyntaxHandles.Constants.ChildVisit
import SyntaxHandles.Dynamic.Catalogue
import SyntaxHandles.Dynamic.Function
import SyntaxHandles.Session.Script

-- The values that pass between a host and the interface: what a host brings with it, and the
-- objects that the interface makes.

namespace SyntaxHandles.Dynamic

open SessionScript (Item)

-- In what way one looks at a table.
inductive Aspect
  | keys
  | values
  | items
  deriving DecidableEq, Repr

-- An object that was made has an identity, which is zero as long as nobody knows the object. What
-- may change is kept under the identity by those who change it. What belongs to a session knows
-- which.
inductive Value
  | nothing
  -- What an object says that leaves a question to the other side.
  | undecided
  | flag (b : Bool)
  | int (n : Int) (identity : Nat := 0)
  | float (x : Float) (identity : Nat := 0)
  -- A number of two parts.
  | complex (real imaginary : Float) (identity : Nat := 0)
  | text (text : String) (identity : Nat := 0)
  | bytes (bytes : List UInt8) (identity : Nat := 0)
  | tuple (items : List Value) (identity : Nat := 0)
  | list (identity : Nat)
  -- Values under keys, in the order in which they were put there.
  | table (identity : Nat)
  -- Values of which no two are the same.
  | set (identity : Nat)
  | view (aspect : Aspect) (table : Nat) (identity : Nat := 0)
  -- What can only be read of a table, or of a class.
  | mirror (source : Value) (identity : Nat := 0)
  -- Something that is no number, but says which one it stands for where an index is needed.
  | index (n : Int) (identity : Nat := 0)
  | held (identity session : Nat) (item : Item)
  | location (identity : Nat) (location : SourceLocation)
  | exception (identity : Nat)
  | function (f : Function)
  -- The host's function that gets an attribute.
  | getter
  | class (c : Class)
  -- What a class has for its objects under a name.
  | feature (giver : Class) (kind : FeatureKind) (name : String)
  -- What a class can be told itself.
  | bound (giver receiver : Class) (name : String)
  -- A choice between classes.
  | union (members : List Value) (identity : Nat := 0)
  -- A class, or something else, that is told what its objects hold. It may be spread, so that it
  -- stands for any number of what it is told.
  | generic (isSpread : Bool) (origin : Value) (arguments : List Value) (identity : Nat := 0)
  -- What an interface has under names is kept in a table.
  | interface (names : Nat)
  -- What an interface can be told, as a function of its own.
  | told (names : Nat) (giver : Class) (name : String) (identity : Nat := 0)

namespace Value

def ofItem : Item → Class
  | .index _ => .index
  | .unit _ => .unit
  | .cursor _ => .cursor
  | .type _ => .type

def ofAspect : Aspect → Class
  | .keys => .host "dict_keys"
  | .values => .host "dict_values"
  | .items => .host "dict_items"

-- The class of a value, as far as the value decides on it. Exceptions may change theirs.
def ofClass : Value → Class
  | nothing => .ofNothing
  | undecided => .host "NotImplementedType"
  | flag _ => .host "bool"
  | int .. => .host "int"
  | float .. => .host "float"
  | complex .. => .host "complex"
  | text .. => .host "str"
  | bytes .. => .host "bytes"
  | tuple .. => .host "tuple"
  | list _ => .host "list"
  | table _ => .host "dict"
  | set _ => .host "set"
  | view aspect .. => ofAspect aspect
  | mirror .. => .host "mappingproxy"
  | index .. => .anything
  | held _ _ item => ofItem item
  | location .. => .location
  | exception _ => .anyException
  | function _ | getter | bound .. | told .. => .functions
  | .class _ => .classes
  | feature _ kind _ => kind.ofFeature
  | union .. => .host "UnionType"
  | generic .. => .host "GenericAlias"
  | interface _ => .interfaces

def isCallable : Value → Bool
  | function _ | getter | bound .. | told .. | .class _ | generic .. => true
  | feature _ kind _ => kind.isDoable || kind = .ofClass
  | _ => false

def isException : Value → Bool
  | exception _ => true
  | _ => false

def isText : Value → Bool
  | text .. => true
  | _ => false

-- Flags are numbers.
def number? : Value → Option Int
  | flag b => some (if b then 1 else 0)
  | int n _ => some n
  | _ => none

-- Where only a whole number will do, other values may stand for one.
def whole? : Value → Option Int
  | index n _ => some n
  | value => value.number?

def identity? : Value → Option Nat
  | int _ identity | float _ identity | text _ identity | bytes _ identity | tuple _ identity
  | complex _ _ identity | list identity | table identity | set identity | view _ _ identity
  | mirror _ identity | index _ identity
  | held identity .. | location identity _ | exception identity | union _ identity
  | generic _ _ _ identity | told _ _ _ identity => if identity = 0 then none else some identity
  | _ => none

def byte (byte : UInt8) : Value :=
  int byte.toNat

def char (c : Char) : Value :=
  text (String.singleton c)

def chars (chars : List Char) : Value :=
  text (String.ofList chars)

def textOrNothing (given : Option String) : Value :=
  (given.map fun text => .text text).getD .nothing

def lines (given : Option (List String)) : Value :=
  textOrNothing (Class.lines given)

def isNothing : Value → Bool
  | nothing => true
  | _ => false

def isFlag : Value → Bool
  | flag _ => true
  | _ => false

-- The whole number that a value is or stands for, if it fits 64 bits.
def word? (value : Value) : Option Int :=
  value.whole?.filter fun n => Int64.minValue.toInt ≤ n ∧ n ≤ Int64.maxValue.toInt

-- What a visitor's answer means. Flags are no codes, though they can be read as numbers, so that a
-- false answer does not break a traversal off.
def visit (answer : Value) : ChildVisit :=
  if answer.isNothing then .next
  else
    let raw := if answer.isFlag then none else answer.word?
    match raw.bind Constant.ofRaw? with
    | some code => code
    | none => .next

-- Whether two values are the one object that there is of this kind. Of small numbers, of bytes
-- alone, of texts with at most one character of Latin-1 and of empty tuples there is one each.
def isSingle : Value → Value → Bool
  | nothing, nothing | undecided, undecided | tuple [] _, tuple [] _ | getter, getter => true
  | interface names, interface names' => names = names'
  | flag a, flag b => a = b
  | int m _, int n _ => m = n && -5 ≤ m && m ≤ 256
  | text a _, text b _ => a == b && a.length ≤ 1 && a.toList.all fun c => c.toNat < 0x100
  | bytes a _, bytes b _ => a == b && a.length ≤ 1
  | function f, function g => f = g
  | .class c, .class d => c = d
  | feature c kind name, feature d kind' name' => c = d && kind = kind' && name = name'
  | _, _ => false

-- Whether a value is like no other one, whatever they are.
def isSeparate : Value → Bool
  | held _ _ (.index _) | held _ _ (.unit _) | location .. | exception _ | interface _ => true
  | _ => false

-- Whether two values are one object.
def isIdentical (a b : Value) : Bool :=
  a.isSingle b || (a.identity?.isSome && a.identity? == b.identity?)

-- Whether two functions do the same.
def isSameFunction : Value → Value → Bool
  | told names giver name _, told names' giver' name' _ =>
    names = names' && giver = giver' && name = name'
  | a, b => a.isIdentical b

end Value

end SyntaxHandles.Dynamic
