import SyntaxHandles.Native.Value

-- What the native library answers. Its answers about nodes and types are functions of their values,
-- and its answers about files are functions of what it is told about them. Text comes as bytes that
-- end before the first zero, or not at all.

namespace SyntaxHandles.Native

abbrev Bytes := List UInt8

-- A position has no file, or a file that may lack a name.
structure Place where
  file : Option (Option Bytes) := none
  line : UInt32 := 0
  column : UInt32 := 0
  offset : UInt32 := 0

-- A unit is made if there is a root for it; the code says how parsing went.
structure ParseReply where
  root : Option Cursor
  code : Int32

structure Library where
  createsIndex : (exclude display : Bool) → Bool
  -- The arguments are told as a list, or as none at all, and by how many there are said to be.
  parse : (filename : String) → (args : Option (List String)) → (count : Int32) →
    (flags : UInt32) → ParseReply
  children : Cursor → List Cursor
  kind : Cursor → Int32
  spelling : Cursor → Option Bytes
  displayName : Cursor → Option Bytes
  rawComment : Cursor → Option Bytes
  place : Cursor → Place
  type : Cursor → TypeValue
  underlyingType : Cursor → TypeValue
  resultType : Cursor → TypeValue
  enumConstantValue : Cursor → Int64
  argumentCount : Cursor → Int32
  argument : Cursor → UInt32 → Cursor
  isNull : Cursor → Bool
  typeSpelling : TypeValue → Option Bytes
  nullability : TypeValue → Int32
  typeResult : TypeValue → TypeValue
  typeArgumentCount : TypeValue → Int32
  typeArgument : TypeValue → UInt32 → TypeValue
  canonical : TypeValue → TypeValue
  pointee : TypeValue → TypeValue

end SyntaxHandles.Native
