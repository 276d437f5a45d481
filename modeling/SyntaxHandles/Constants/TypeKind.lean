import SyntaxHandles.Constants.Constant

-- Kinds of types that a generator of bindings tells apart.

namespace SyntaxHandles

inductive TypeKind
  | invalid
  | unexposed
  | void
  | bool
  | uChar
  | uShort
  | uInt
  | uLong
  | uLongLong
  | charS
  | sChar
  | short
  | int
  | long
  | longLong
  | float
  | double
  | longDouble
  | objCId
  | objCClass
  | objCSel
  | pointer
  | blockPointer
  | record
  | enum
  | typedef
  | objCInterface
  | objCObjectPointer
  | functionNoProto
  | functionProto
  | constantArray
  | incompleteArray
  | elaborated
  deriving DecidableEq, Repr

instance : Constant TypeKind where
  all := [
    .invalid, .unexposed, .void, .bool, .uChar, .uShort, .uInt, .uLong, .uLongLong, .charS,
    .sChar, .short, .int, .long, .longLong, .float, .double, .longDouble, .objCId, .objCClass,
    .objCSel, .pointer, .blockPointer, .record, .enum, .typedef, .objCInterface,
    .objCObjectPointer, .functionNoProto, .functionProto, .constantArray, .incompleteArray,
    .elaborated]
  name
    | .invalid => "Invalid"
    | .unexposed => "Unexposed"
    | .void => "Void"
    | .bool => "Bool"
    | .uChar => "UChar"
    | .uShort => "UShort"
    | .uInt => "UInt"
    | .uLong => "ULong"
    | .uLongLong => "ULongLong"
    | .charS => "CharS"
    | .sChar => "SChar"
    | .short => "Short"
    | .int => "Int"
    | .long => "Long"
    | .longLong => "LongLong"
    | .float => "Float"
    | .double => "Double"
    | .longDouble => "LongDouble"
    | .objCId => "ObjCId"
    | .objCClass => "ObjCClass"
    | .objCSel => "ObjCSel"
    | .pointer => "Pointer"
    | .blockPointer => "BlockPointer"
    | .record => "Record"
    | .enum => "Enum"
    | .typedef => "Typedef"
    | .objCInterface => "ObjCInterface"
    | .objCObjectPointer => "ObjCObjectPointer"
    | .functionNoProto => "FunctionNoProto"
    | .functionProto => "FunctionProto"
    | .constantArray => "ConstantArray"
    | .incompleteArray => "IncompleteArray"
    | .elaborated => "Elaborated"
  raw
    | .invalid => 0
    | .unexposed => 1
    | .void => 2
    | .bool => 3
    | .uChar => 5
    | .uShort => 8
    | .uInt => 9
    | .uLong => 10
    | .uLongLong => 11
    | .charS => 13
    | .sChar => 14
    | .short => 16
    | .int => 17
    | .long => 18
    | .longLong => 19
    | .float => 21
    | .double => 22
    | .longDouble => 23
    | .objCId => 27
    | .objCClass => 28
    | .objCSel => 29
    | .pointer => 101
    | .blockPointer => 102
    | .record => 105
    | .enum => 106
    | .typedef => 107
    | .objCInterface => 108
    | .objCObjectPointer => 109
    | .functionNoProto => 110
    | .functionProto => 111
    | .constantArray => 112
    | .incompleteArray => 114
    | .elaborated => 119
  exported
    | .invalid => "CXType_Invalid"
    | .unexposed => "CXType_Unexposed"
    | .void => "CXType_Void"
    | .bool => "CXType_Bool"
    | .uChar => "CXType_UChar"
    | .uShort => "CXType_UShort"
    | .uInt => "CXType_UInt"
    | .uLong => "CXType_ULong"
    | .uLongLong => "CXType_ULongLong"
    | .charS => "CXType_Char_S"
    | .sChar => "CXType_SChar"
    | .short => "CXType_Short"
    | .int => "CXType_Int"
    | .long => "CXType_Long"
    | .longLong => "CXType_LongLong"
    | .float => "CXType_Float"
    | .double => "CXType_Double"
    | .longDouble => "CXType_LongDouble"
    | .objCId => "CXType_ObjCId"
    | .objCClass => "CXType_ObjCClass"
    | .objCSel => "CXType_ObjCSel"
    | .pointer => "CXType_Pointer"
    | .blockPointer => "CXType_BlockPointer"
    | .record => "CXType_Record"
    | .enum => "CXType_Enum"
    | .typedef => "CXType_Typedef"
    | .objCInterface => "CXType_ObjCInterface"
    | .objCObjectPointer => "CXType_ObjCObjectPointer"
    | .functionNoProto => "CXType_FunctionNoProto"
    | .functionProto => "CXType_FunctionProto"
    | .constantArray => "CXType_ConstantArray"
    | .incompleteArray => "CXType_IncompleteArray"
    | .elaborated => "CXType_Elaborated"

end SyntaxHandles
