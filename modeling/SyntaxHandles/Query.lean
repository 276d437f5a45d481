import SyntaxHandles.Constants.Nullability
import SyntaxHandles.Location
import SyntaxHandles.Token

-- Read-only questions about nodes and types, and the shapes of their answers.

namespace SyntaxHandles

inductive CursorQuery
  | kind
  -- Identifier; empty for declarations without a name.
  | spelling
  | displayName
  | location
  | type
  -- Documentation comment, if there is one.
  | rawComment
  | enumConstantValue
  | underlyingType
  | resultType
  -- Number of parameters, or -1 for what has none.
  | argumentCount
  | argument (index : UInt32)
  | isNull
  deriving DecidableEq, Repr

inductive TypeQuery
  | kind
  | spelling
  | nullability
  | result
  | argumentCount
  | argument (index : UInt32)
  | canonical
  | pointee
  deriving DecidableEq, Repr

inductive Answer
  | number (n : Int)
  | flag (b : Bool)
  | text (text : String)
  | optionalText (text : Option String)
  | location (location : SourceLocation)
  | nullability (nullability : Nullability)
  | cursor (token : CursorToken)
  | type (token : TypeToken)

end SyntaxHandles
