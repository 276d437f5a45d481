import SyntaxHandles.Json.Record
import SyntaxHandles.Json.Value

-- Settings of an index, which hold for every file that is parsed with it.

namespace SyntaxHandles

structure IndexOptions where
  excludeDeclarationsFromPch : Bool := false
  displayDiagnostics : Bool := false
  deriving DecidableEq

namespace IndexOptions

def fields : List (Json.Field IndexOptions) := [
  ⟨"exclude_declarations_from_pch", fun s =>
    (Json.readBool s).map fun b options => { options with excludeDeclarationsFromPch := b }⟩,
  ⟨"display_diagnostics", fun s =>
    (Json.readBool s).map fun b options => { options with displayDiagnostics := b }⟩]

def ofJson? (text : String) : Except String IndexOptions :=
  Json.readText (Json.readRecord "IndexOptions" fields {}) text

def toJson (options : IndexOptions) : Json.Value :=
  .object [
    ("exclude_declarations_from_pch", .bool options.excludeDeclarationsFromPch),
    ("display_diagnostics", .bool options.displayDiagnostics)]

end IndexOptions

end SyntaxHandles
