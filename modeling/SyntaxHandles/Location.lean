import SyntaxHandles.Json.Value
import SyntaxHandles.Text.Quoted

-- Where a node of a syntax tree starts.

namespace SyntaxHandles

structure SourceLocation where
  -- Missing for nodes that come from no file.
  file : Option String
  line : UInt32
  column : UInt32
  offset : UInt32
  deriving DecidableEq

namespace SourceLocation

def toJson (location : SourceLocation) : Json.Value :=
  .object [
    ("file", (location.file.map Json.Value.string).getD .null),
    ("line", .number location.line.toNat),
    ("column", .number location.column.toNat),
    ("offset", .number location.offset.toNat)]

def text (location : SourceLocation) : String :=
  let file :=
    match location.file with
    | some file => "Some(" ++ Text.quoted file ++ ")"
    | none => "None"
  "SourceLocation(file=" ++ file ++ ", line=" ++ toString location.line ++
    ", column=" ++ toString location.column ++ ", offset=" ++ toString location.offset ++ ")"

end SourceLocation

end SyntaxHandles
