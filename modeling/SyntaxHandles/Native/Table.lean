import SyntaxHandles.Native.Library

-- A library that answers from tables of nodes, types and files. Nodes and types are named by their
-- place in the table; a name that is in no table stands for the null node or the invalid type,
-- about which there is nothing to know.

namespace SyntaxHandles.Native

structure CursorEntry where
  kind : Int32 := 0
  spelling : Option Bytes := none
  displayName : Option Bytes := none
  rawComment : Option Bytes := none
  place : Place := {}
  type : Option Nat := none
  underlyingType : Option Nat := none
  resultType : Option Nat := none
  enumConstantValue : Int64 := Int64.minValue
  -- What has no parameters at all has no list of them.
  arguments : Option (List (Option Nat)) := none
  children : List (Option Nat) := []

structure TypeEntry where
  kind : Int32 := 0
  spelling : Option Bytes := none
  -- Nothing usable is known.
  nullability : Int32 := 3
  canonical : Option Nat := none
  pointee : Option Nat := none
  result : Option Nat := none
  arguments : Option (List (Option Nat)) := none

structure FileEntry where
  -- A file without a root cannot be parsed; the root itself may be in no table.
  root : Option (Option Nat) := none
  code : Option Int32 := none

structure Table where
  files : List (String × FileEntry) := []
  cursors : Array CursorEntry := #[]
  types : Array TypeEntry := #[]
  createsIndex : Bool := true

def nullCursor : Cursor := ⟨70, 0, 0, 0, 0⟩

def invalidType : TypeValue := ⟨0, 0, 0⟩

namespace Table

variable (table : Table)

def cursor (name : Option Nat) : Cursor :=
  match name.bind fun n => table.cursors[n]?.map (n, ·) with
  | some (n, entry) => ⟨entry.kind, 0, UInt64.ofNat (n + 1), 0, 0⟩
  | none => nullCursor

def type (name : Option Nat) : TypeValue :=
  match name.bind fun n => table.types[n]?.map (n, ·) with
  | some (n, entry) => ⟨entry.kind, UInt64.ofNat (n + 1), 0⟩
  | none => invalidType

-- The place of a node in the table.
def cursorName (cursor : Cursor) : Option Nat :=
  if cursor.data.1 = 0 then none else some (cursor.data.1.toNat - 1)

def typeName (type : TypeValue) : Option Nat :=
  if type.data.1 = 0 then none else some (type.data.1.toNat - 1)

def cursorEntry (cursor : Cursor) : CursorEntry :=
  ((cursorName cursor).bind fun n => table.cursors[n]?).getD {}

def typeEntry (type : TypeValue) : TypeEntry :=
  ((typeName type).bind fun n => table.types[n]?).getD {}

def count : Option (List (Option Nat)) → Int32
  | some arguments => Int32.ofNat arguments.length
  | none => -1

def pick (arguments : Option (List (Option Nat))) (index : UInt32) : Option Nat :=
  ((arguments.getD [])[index.toNat]?).join

def parse (filename : String) : ParseReply :=
  let entry := (table.files.lookup filename).getD {}
  match entry.root with
  | some root => ⟨some (table.cursor root), entry.code.getD 0⟩
  | none => ⟨none, entry.code.getD 1⟩

def library : Library where
  createsIndex _ _ := table.createsIndex
  parse filename _ _ _ := table.parse filename
  children c := (table.cursorEntry c).children.map table.cursor
  kind c := c.kind
  spelling c := (table.cursorEntry c).spelling
  displayName c := (table.cursorEntry c).displayName
  rawComment c := (table.cursorEntry c).rawComment
  place c := (table.cursorEntry c).place
  type c := table.type (table.cursorEntry c).type
  underlyingType c := table.type (table.cursorEntry c).underlyingType
  resultType c := table.type (table.cursorEntry c).resultType
  enumConstantValue c := (table.cursorEntry c).enumConstantValue
  argumentCount c := count (table.cursorEntry c).arguments
  argument c index := table.cursor (pick (table.cursorEntry c).arguments index)
  isNull c := c.data.1 = 0
  typeSpelling t := (table.typeEntry t).spelling
  nullability t := (table.typeEntry t).nullability
  typeResult t := table.type (table.typeEntry t).result
  typeArgumentCount t := count (table.typeEntry t).arguments
  typeArgument t index := table.type (pick (table.typeEntry t).arguments index)
  canonical t := table.type (table.typeEntry t).canonical
  pointee t := table.type (table.typeEntry t).pointee

end Table

end SyntaxHandles.Native
