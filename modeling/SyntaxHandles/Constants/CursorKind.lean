import SyntaxHandles.Constants.Constant

-- Kinds of tree nodes that a generator of bindings tells apart: declarations, references, and the
-- root of a unit. The native library knows many more; a node of any other kind is reachable too and
-- has no tag here.

namespace SyntaxHandles

inductive CursorKind
  | unexposedDecl
  | structDecl
  | unionDecl
  | classDecl
  | enumDecl
  | fieldDecl
  | enumConstantDecl
  | functionDecl
  | varDecl
  | parmDecl
  | objCInterfaceDecl
  | objCCategoryDecl
  | objCProtocolDecl
  | objCPropertyDecl
  | objCIvarDecl
  | objCInstanceMethodDecl
  | objCClassMethodDecl
  | typedefDecl
  | cxxMethod
  | objCSuperClassRef
  | objCProtocolRef
  | objCClassRef
  | typeRef
  | noDeclFound
  | translationUnit
  deriving DecidableEq, Repr

instance : Constant CursorKind where
  all := [
    .unexposedDecl, .structDecl, .unionDecl, .classDecl, .enumDecl, .fieldDecl,
    .enumConstantDecl, .functionDecl, .varDecl, .parmDecl, .objCInterfaceDecl, .objCCategoryDecl,
    .objCProtocolDecl, .objCPropertyDecl, .objCIvarDecl, .objCInstanceMethodDecl,
    .objCClassMethodDecl, .typedefDecl, .cxxMethod, .objCSuperClassRef, .objCProtocolRef,
    .objCClassRef, .typeRef, .noDeclFound, .translationUnit]
  name
    | .unexposedDecl => "UnexposedDecl"
    | .structDecl => "StructDecl"
    | .unionDecl => "UnionDecl"
    | .classDecl => "ClassDecl"
    | .enumDecl => "EnumDecl"
    | .fieldDecl => "FieldDecl"
    | .enumConstantDecl => "EnumConstantDecl"
    | .functionDecl => "FunctionDecl"
    | .varDecl => "VarDecl"
    | .parmDecl => "ParmDecl"
    | .objCInterfaceDecl => "ObjCInterfaceDecl"
    | .objCCategoryDecl => "ObjCCategoryDecl"
    | .objCProtocolDecl => "ObjCProtocolDecl"
    | .objCPropertyDecl => "ObjCPropertyDecl"
    | .objCIvarDecl => "ObjCIvarDecl"
    | .objCInstanceMethodDecl => "ObjCInstanceMethodDecl"
    | .objCClassMethodDecl => "ObjCClassMethodDecl"
    | .typedefDecl => "TypedefDecl"
    | .cxxMethod => "CxxMethod"
    | .objCSuperClassRef => "ObjCSuperClassRef"
    | .objCProtocolRef => "ObjCProtocolRef"
    | .objCClassRef => "ObjCClassRef"
    | .typeRef => "TypeRef"
    | .noDeclFound => "NoDeclFound"
    | .translationUnit => "TranslationUnit"
  raw
    | .unexposedDecl => 1
    | .structDecl => 2
    | .unionDecl => 3
    | .classDecl => 4
    | .enumDecl => 5
    | .fieldDecl => 6
    | .enumConstantDecl => 7
    | .functionDecl => 8
    | .varDecl => 9
    | .parmDecl => 10
    | .objCInterfaceDecl => 11
    | .objCCategoryDecl => 12
    | .objCProtocolDecl => 13
    | .objCPropertyDecl => 14
    | .objCIvarDecl => 15
    | .objCInstanceMethodDecl => 16
    | .objCClassMethodDecl => 17
    | .typedefDecl => 20
    | .cxxMethod => 21
    | .objCSuperClassRef => 40
    | .objCProtocolRef => 41
    | .objCClassRef => 42
    | .typeRef => 43
    | .noDeclFound => 71
    | .translationUnit => 300
  exported
    | .unexposedDecl => "CXCursor_UnexposedDecl"
    | .structDecl => "CXCursor_StructDecl"
    | .unionDecl => "CXCursor_UnionDecl"
    | .classDecl => "CXCursor_ClassDecl"
    | .enumDecl => "CXCursor_EnumDecl"
    | .fieldDecl => "CXCursor_FieldDecl"
    | .enumConstantDecl => "CXCursor_EnumConstantDecl"
    | .functionDecl => "CXCursor_FunctionDecl"
    | .varDecl => "CXCursor_VarDecl"
    | .parmDecl => "CXCursor_ParmDecl"
    | .objCInterfaceDecl => "CXCursor_ObjCInterfaceDecl"
    | .objCCategoryDecl => "CXCursor_ObjCCategoryDecl"
    | .objCProtocolDecl => "CXCursor_ObjCProtocolDecl"
    | .objCPropertyDecl => "CXCursor_ObjCPropertyDecl"
    | .objCIvarDecl => "CXCursor_ObjCIvarDecl"
    | .objCInstanceMethodDecl => "CXCursor_ObjCInstanceMethodDecl"
    | .objCClassMethodDecl => "CXCursor_ObjCClassMethodDecl"
    | .typedefDecl => "CXCursor_TypedefDecl"
    | .cxxMethod => "CXCursor_CXXMethod"
    | .objCSuperClassRef => "CXCursor_ObjCSuperClassRef"
    | .objCProtocolRef => "CXCursor_ObjCProtocolRef"
    | .objCClassRef => "CXCursor_ObjCClassRef"
    | .typeRef => "CXCursor_TypeRef"
    | .noDeclFound => "CXCursor_NoDeclFound"
    | .translationUnit => "CXCursor_TranslationUnit"

end SyntaxHandles
