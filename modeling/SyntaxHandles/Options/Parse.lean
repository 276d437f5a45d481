import SyntaxHandles.Constants.ParseFlag
import SyntaxHandles.Fault
import SyntaxHandles.Json.Record
import SyntaxHandles.Json.Value

-- How one file is to be parsed: the arguments for the parser, word for word, and its flags.

namespace SyntaxHandles

structure ParseOptions where
  args : List String := []
  flags : UInt32 := 0
  deriving DecidableEq

namespace ParseOptions

def ofFlags (args : List String) (flags : List ParseFlag) : ParseOptions :=
  { args, flags := ParseFlag.mask flags }

-- The empty set of flags is never said to be among the flags.
def hasFlag (options : ParseOptions) (flag : ParseFlag) : Bool :=
  flag.bits ≠ 0 && options.flags &&& flag.bits = flag.bits

def fields : List (Json.Field ParseOptions) := [
  ⟨"args",
    fun s => (Json.readList Json.readString s).map fun args options => { options with args }⟩,
  ⟨"flags", fun s => (Json.readUInt32 s).map fun flags options => { options with flags }⟩]

def ofJson? (text : String) : Except Fault ParseOptions :=
  (Json.readText (Json.readRecord "ParseOptions" fields {}) text).mapError fun problem =>
    .invalidArgument ("invalid parse options: " ++ problem)

def toJson (options : ParseOptions) : Json.Value :=
  .object [
    ("args", .list (options.args.map .string)),
    ("flags", .number options.flags.toNat)]

end ParseOptions

end SyntaxHandles
