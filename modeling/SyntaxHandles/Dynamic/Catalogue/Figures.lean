-- How much room the objects of a class take, and where in it special things are kept.

namespace SyntaxHandles.Dynamic.Catalogue

-- Objects of some classes take more room for each item.
structure Figures where
  size : Nat
  itemSize : Nat := 0
  marks : Nat
  attachmentPlace : Nat := 0
  referencePlace : Nat := 0

def ofException : Figures := ⟨80, 0, 1073763840, 16, 72⟩

def figures : String → Figures
  | "object" => ⟨16, 0, 529664, 0, 0⟩
  | "type" => ⟨904, 40, 2148031744, 264, 368⟩
  | "BaseException" | "Exception" => ⟨72, 0, 1074287872, 16, 0⟩
  | "NotImplementedType" => ⟨16, 0, 4352, 0, 0⟩
  | "bool" => ⟨32, 4, 21500160, 0, 0⟩
  | "int" => ⟨24, 4, 21501184, 0, 0⟩
  | "float" => ⟨24, 0, 4199680, 0, 0⟩
  | "complex" => ⟨32, 0, 5376, 0, 0⟩
  | "str" => ⟨80, 0, 273159424, 0, 0⟩
  | "bytes" => ⟨33, 1, 138941696, 0, 0⟩
  | "list" => ⟨40, 0, 38294816, 0, 0⟩
  | "tuple" => ⟨24, 8, 71849248, 0, 0⟩
  | "dict" => ⟨48, 0, 541611328, 0, 0⟩
  | "set" => ⟨200, 0, 4740352, 0, 192⟩
  | "dict_keys" | "dict_values" => ⟨24, 0, 20864, 0, 0⟩
  | "dict_items" => ⟨24, 0, 545152, 0, 0⟩
  | "mappingproxy" => ⟨24, 0, 545088, 0, 0⟩
  | "builtin_function_or_method" => ⟨56, 0, 547200, 0, 40⟩
  | "method_descriptor" => ⟨56, 0, 678272, 0, 0⟩
  | "wrapper_descriptor" => ⟨56, 0, 676224, 0, 0⟩
  | "getset_descriptor" | "member_descriptor" => ⟨48, 0, 545152, 0, 0⟩
  | "classmethod_descriptor" => ⟨56, 0, 545152, 0, 0⟩
  | "module" => ⟨56, 0, 546048, 16, 40⟩
  | "UnionType" => ⟨32, 0, 20864, 0, 0⟩
  | "GenericAlias" => ⟨64, 0, 548096, 0, 40⟩
  | "NoneType" => ⟨16, 0, 528640, 0, 0⟩
  | _ => ⟨48, 0, 5888, 0, 0⟩

end SyntaxHandles.Dynamic.Catalogue
