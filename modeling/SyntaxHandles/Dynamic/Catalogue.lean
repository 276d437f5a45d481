import SyntaxHandles.Dynamic.Catalogue.Complex
import SyntaxHandles.Dynamic.Catalogue.Containers
import SyntaxHandles.Dynamic.Catalogue.Features
import SyntaxHandles.Dynamic.Catalogue.Figures
import SyntaxHandles.Dynamic.Catalogue.Numbers
import SyntaxHandles.Dynamic.Catalogue.Objects
import SyntaxHandles.Dynamic.Catalogue.Runs
import SyntaxHandles.Dynamic.Catalogue.Sets
import SyntaxHandles.Dynamic.Catalogue.Texts
import SyntaxHandles.Dynamic.Class

-- What each class has for its objects, and what such a feature says of itself.

namespace SyntaxHandles.Dynamic

-- What a class has for its objects is an object itself, of one of several classes.
inductive FeatureKind
  -- What every host knows to do.
  | operation
  | method
  | ofClass
  | computed
  | stored
  deriving DecidableEq, Repr

namespace FeatureKind

def ofFeature : FeatureKind → Class
  | operation => .host "wrapper_descriptor"
  | method => .host "method_descriptor"
  | ofClass => .host "classmethod_descriptor"
  | computed => .host "getset_descriptor"
  | stored => .host "member_descriptor"

def isData : FeatureKind → Bool
  | computed | stored => true
  | _ => false

def isDoable : FeatureKind → Bool
  | operation | method => true
  | _ => false

end FeatureKind

namespace Class

open Catalogue

-- What blocks ask of what they work with.
def forBlocks : List Member := [
  .method "__enter__" (some "($self)") none,
  .method "__exit__" (some "($self, _exc_type, _exc_value, _traceback)") none]

def forTokens : List Member :=
  operations ["__repr__", "__lt__", "__le__", "__eq__", "__ne__", "__gt__", "__ge__"]

-- Most of what the interface computes says nothing of itself.
def silent (name : String) : Member :=
  .computed name (some [""])

-- What a class has itself, not counting its ancestors.
def members : Class → List Member
  | index =>
    operations ["__repr__"] ++
      [.method "dispose" (some "($self)")
        (some ["Release the index. Returns False if it was already disposed."])] ++
      forBlocks ++ [silent "is_alive"]
  | unit =>
    operations ["__repr__"] ++
      [.method "cursor" (some "($self)") (some ["Root cursor of the translation unit"]),
        .method "dispose" (some "($self)") (some [
          "Release the translation unit. Cursors and types taken from it become",
          "invalid and raise InvalidHandleError on use."])] ++
      forBlocks ++ [silent "is_alive", silent "filename"]
  | cursor =>
    forTokens ++
      [.computed "raw_kind"
          (some ["Raw libclang cursor kind; readable even after the unit is disposed."]),
        silent "is_valid", .hashless]
  | type => forTokens ++ [silent "raw_kind", silent "is_valid", .hashless]
  | location =>
    operations ["__repr__"] ++
      [silent "file", silent "line", silent "column", silent "offset"]
  | invalidHandle | parseFailed | libraryUnavailable =>
    [.computed "__weakref__" (some ["list of weak references to the object"])]
  | host name => match name with
    | "object" => ofAnything
    | "type" => ofClasses
    | "BaseException" => ofExceptions
    | "Exception" => ofOrdinaryExceptions
    | "NoneType" => Catalogue.ofNothing
    | "NotImplementedType" => ofUndecided
    | "bool" => ofFlags
    | "int" => ofInts
    | "float" => ofFloats
    | "complex" => ofComplex
    | "str" => ofTexts
    | "bytes" => ofBytes
    | "list" => ofLists
    | "tuple" => ofTuples
    | "dict" => ofTables
    | "set" => ofSets
    | "dict_keys" => ofKeys
    | "dict_values" => ofValues
    | "dict_items" => ofItems
    | "mappingproxy" => ofMirrors
    | "builtin_function_or_method" => ofFunctions
    | "method_descriptor" => ofMethods
    | "wrapper_descriptor" => ofOperations
    | "getset_descriptor" => ofComputed
    | "member_descriptor" => ofStored
    | "classmethod_descriptor" => ofOfClasses
    | "module" => ofModules
    | "UnionType" => ofUnions
    | "GenericAlias" => ofGenerics
    | _ => []

def member? (c : Class) (name : String) : Option Member :=
  c.members.find? fun member => member.name = name

-- What the host's classes say of themselves.
def hostDocumentation (c : Class) : Option (List String) :=
  if c = classes then some [
    "type(object) -> the object's type",
    "type(name, bases, dict, **kwds) -> a new type"]
  else match c.member? "__doc__" with
    | some (.documentation lines) => lines
    | _ => none

-- What can be given to a class when it is called, as far as it says so.
def signature : Class → Option String
  | host "object" => some "()"
  | host "float" => some "(x=0, /)"
  | host "complex" => some "(real=0, imag=0)"
  | host "list" | host "tuple" => some "(iterable=(), /)"
  | host "module" => some "(name, doc=None)"
  | _ => none

def lines (given : Option (List String)) : Option String :=
  given.map fun lines => "\n".intercalate lines

def featureDocumentation (c : Class) (name : String) : Option String :=
  match c.member? name with
  | some (.operation name) => (operation? name).map Operation.documentation
  | some (.method _ _ documentation) | some (.ofClass _ _ documentation)
  | some (.shared _ _ documentation) | some (.computed _ documentation)
  | some (.stored _ documentation) => lines documentation
  | _ => none

def featureSignature (c : Class) (name : String) : Option String :=
  match c.member? name with
  | some (.operation name) => (operation? name).map Operation.signature
  | some (.method _ signature _) | some (.ofClass _ signature _)
  | some (.shared _ signature _) => signature
  | _ => none

def figures (c : Class) : Figures :=
  if c.isOwn && c.isException then ofException else Catalogue.figures c.name

end Class

end SyntaxHandles.Dynamic
