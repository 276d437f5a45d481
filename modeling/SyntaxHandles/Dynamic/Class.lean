-- The classes of the interface for hosts: those of the objects that it hands out, and those of the
-- exceptions that are its own. Hosts bring classes with them from which these are derived.

namespace SyntaxHandles.Dynamic

inductive Class
  | index
  | unit
  | cursor
  | type
  | location
  | invalidHandle
  | parseFailed
  | libraryUnavailable
  -- A class that every host has.
  | host (name : String)
  deriving DecidableEq, Repr

namespace Class

-- The classes that are the interface's own.
def all : List Class :=
  [.index, .unit, .cursor, .type, .location, .invalidHandle, .parseFailed, .libraryUnavailable]

def name : Class → String
  | index => "Index"
  | unit => "TranslationUnit"
  | cursor => "Cursor"
  | type => "Type"
  | location => "SourceLocation"
  | invalidHandle => "InvalidHandleError"
  | parseFailed => "ParseFailedError"
  | libraryUnavailable => "LibraryUnavailableError"
  | host name => name

-- What every class is derived from in the end.
def anything : Class := .host "object"

def anyException : Class := .host "BaseException"

-- The class of classes.
def classes : Class := .host "type"

def functions : Class := .host "builtin_function_or_method"

def interfaces : Class := .host "module"

-- There is one class of the values that say nothing.
def ofNothing : Class := .host "NoneType"

def isOwn : Class → Bool
  | host _ => false
  | _ => true

def isException : Class → Bool
  | invalidHandle | parseFailed | libraryUnavailable => true
  | host name => name = "Exception" || name = "BaseException"
  | _ => false

-- The class itself and all it derives from, nearest first.
def ancestors : Class → List Class
  | host "object" => [anything]
  | host "bool" => [.host "bool", .host "int", anything]
  | host "BaseException" => [anyException, anything]
  | host "Exception" => [.host "Exception", anyException, anything]
  | c => if c.isException then [c, .host "Exception", anyException, anything] else [c, anything]

def isOfTypes (c : Class) : Bool :=
  c = .host "UnionType" || c = .host "GenericAlias"

-- Where a class says that it belongs. Only the exceptions say the name by which the host knows the
-- interface.
def home (interface : String) (c : Class) : String :=
  if c.isOwn && c.isException then interface
  else if c.isOfTypes then "types"
  else "builtins"

-- How a class is named on its own.
def title (c : Class) : String :=
  if c.isOwn && !c.isException then "builtins." ++ c.name
  else if c.isOfTypes then "types." ++ c.name
  else c.name

-- What the interface says of its classes.
def documentation : Class → Option (List String)
  | index => some [
    "Python-accessible index handle",
    "",
    "Thread-affine: libclang objects stay on the thread that created them."]
  | unit => some ["Python-accessible translation unit handle"]
  | cursor => some [
    "Python-accessible cursor token",
    "",
    "Valid while its translation unit is alive."]
  | type => some ["Python-accessible type token"]
  | location => some [
    "Python-accessible source location",
    "",
    "All fields are read-only from Python."]
  | invalidHandle => some ["Token or handle refers to a disposed or foreign translation unit."]
  | parseFailed => some ["libclang returned no translation unit."]
  | libraryUnavailable => some ["No libclang shared library could be loaded."]
  | host _ => none

end Class

end SyntaxHandles.Dynamic
