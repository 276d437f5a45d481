import SyntaxHandles.Constants.Table
import SyntaxHandles.Dynamic.Value

-- What a host finds under the names of the interface: functions, classes and constants, and what
-- the interface says about itself. The name of the interface is the one by which the host knows it.

namespace SyntaxHandles.Dynamic.Interface

def version : String := "0.1.0"

def documentation : List String := [
  "Clang Bridge Python module",
  "",
  "Exposes index/translation-unit lifecycle, cursor and type queries,",
  "child visitation and the libclang constant tables."]

-- All that is meant for hosts. The version of the interface itself has a name of its own.
def members : List (String × Value) :=
  Function.all.map (fun f => (f.name, .function f)) ++
    Class.all.map (fun c => (c.name, .class c)) ++
    ConstantTable.entries.map (fun (name, value) => (name, .int value)) ++
    [("CONSTANTS_VERSION", .int ConstantTable.version)]

-- The table of what the interface has.
def table : Nat := 1

def own : Value := .interface table

def allNames : String := "__all__"

-- What the interface says about itself goes before all else, and the list of all names next. Where
-- the interface came from is left open.
def entries (interface : String) : List (String × Value) :=
  [("__name__", .text interface), ("__doc__", .lines (some documentation)),
    ("__package__", .text ""), ("__loader__", .nothing), ("__spec__", .nothing),
    ("__file__", .nothing), (allNames, .nothing), ("__version__", .text version)] ++ members

-- In the order of their characters.
def sorted (names : List String) : List String :=
  names.mergeSort fun a b => !(b < a)

end SyntaxHandles.Dynamic.Interface
