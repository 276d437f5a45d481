-- The small values by which the native library names nodes and types of a tree. What the words mean
-- is the library's own affair.

namespace SyntaxHandles.Native

structure Cursor where
  kind : Int32
  xdata : Int32 := 0
  data : UInt64 × UInt64 × UInt64
  deriving DecidableEq, Repr

structure TypeValue where
  kind : Int32
  data : UInt64 × UInt64
  deriving DecidableEq, Repr

-- A unit as the library hands it out: its number among all units, and its root node.
structure ParsedUnit where
  number : Nat
  root : Cursor
  deriving DecidableEq, Repr

end SyntaxHandles.Native
