-- The functions of the interface for hosts, with the names and the documentation that hosts see.

namespace SyntaxHandles.Dynamic

inductive Function
  | createIndex
  | parse
  | rootCursor
  | dispose
  | cursorKind
  | cursorSpelling
  | cursorDisplayName
  | cursorLocation
  | cursorType
  | cursorRawComment
  | enumConstantValue
  | underlyingType
  | cursorResultType
  | argumentCount
  | argument
  | isNullCursor
  | typeKind
  | typeSpelling
  | typeNullability
  | typeResult
  | typeArgumentCount
  | typeArgument
  | canonicalType
  | pointeeType
  | visitChildren
  deriving DecidableEq, Repr

namespace Function

def all : List Function :=
  [.createIndex, .parse, .rootCursor, .dispose, .cursorKind, .cursorSpelling, .cursorDisplayName,
    .cursorLocation, .cursorType, .cursorRawComment, .enumConstantValue, .underlyingType,
    .cursorResultType, .argumentCount, .argument, .isNullCursor, .typeKind, .typeSpelling,
    .typeNullability, .typeResult, .typeArgumentCount, .typeArgument, .canonicalType, .pointeeType,
    .visitChildren]

def name : Function → String
  | createIndex => "create_index"
  | parse => "parse_translation_unit"
  | rootCursor => "get_translation_unit_cursor"
  | dispose => "dispose"
  | cursorKind => "get_cursor_kind"
  | cursorSpelling => "get_cursor_spelling"
  | cursorDisplayName => "get_cursor_display_name"
  | cursorLocation => "get_cursor_location"
  | cursorType => "get_cursor_type"
  | cursorRawComment => "get_cursor_raw_comment"
  | enumConstantValue => "get_enum_constant_value"
  | underlyingType => "get_typedef_underlying_type"
  | cursorResultType => "get_cursor_result_type"
  | argumentCount => "get_num_arguments"
  | argument => "get_argument"
  | isNullCursor => "is_null_cursor"
  | typeKind => "get_type_kind"
  | typeSpelling => "get_type_spelling"
  | typeNullability => "get_type_nullability"
  | typeResult => "get_result_type"
  | typeArgumentCount => "get_num_arg_types"
  | typeArgument => "get_arg_type"
  | canonicalType => "get_canonical_type"
  | pointeeType => "get_pointee_type"
  | visitChildren => "visit_children"

-- The lines of the documentation, if there is any.
def documentation : Function → Option (List String)
  | createIndex => some [
    "Create a parser index",
    "",
    "Args:",
    "    exclude_declarations_from_pch (bool): Skip declarations from precompiled headers",
    "    display_diagnostics (bool): Let libclang print diagnostics to stderr",
    "",
    "Returns:",
    "    Index: Handle to the new index (a context manager)",
    "",
    "Raises:",
    "    LibraryUnavailableError: If libclang cannot be loaded",
    "    MemoryError: If libclang fails to allocate the index"]
  | parse => some [
    "Parse a source file into a translation unit",
    "",
    "Args:",
    "    index (Index): Index created by create_index()",
    "    filename (str): Path of the file to parse",
    "    args (list[str] | None): Compiler arguments, passed verbatim",
    "    options (int): Bitwise OR of CXTranslationUnit_* flags",
    "",
    "Returns:",
    "    TranslationUnit: Handle to the parsed unit (a context manager)",
    "",
    "Raises:",
    "    ParseFailedError: If libclang produced no translation unit",
    "    InvalidHandleError: If the index was disposed",
    "    ValueError: If the filename or an argument contains a NUL byte"]
  | rootCursor => some ["Root cursor of a translation unit"]
  | dispose => some [
    "Release an Index or TranslationUnit",
    "",
    "Returns:",
    "    bool: True if this call released the resource, False if it was",
    "          already disposed",
    "",
    "Raises:",
    "    TypeError: If handle is neither an Index nor a TranslationUnit"]
  | cursorSpelling => some ["Identifier of the cursor; empty string for anonymous declarations"]
  | cursorRawComment => some ["Documentation comment attached to the cursor, or None"]
  | enumConstantValue => some [
    "Value of an enum constant declaration",
    "",
    "Note:",
    "    Other cursor kinds are not rejected; libclang answers with the",
    "    minimum 64-bit integer for them."]
  | argumentCount => some ["Number of parameters, or -1 if the cursor is not function-like"]
  | argument => some ["Parameter declaration at index; a null cursor when out of range"]
  | typeNullability => some ["One of the CXTypeNullability_* constants"]
  | typeArgument => some ["Parameter type at index; a CXType_Invalid type when out of range"]
  | visitChildren => some [
    "Walk the children of a cursor, calling back into Python for each one",
    "",
    "The callback runs synchronously as callback(child, parent) and returns one",
    "of CXChildVisit_Continue, CXChildVisit_Recurse or CXChildVisit_Break. Any",
    "other return value (including None) is treated as Continue.",
    "",
    "Args:",
    "    cursor (Cursor): Cursor whose descendants are visited",
    "    callback (Callable[[Cursor, Cursor], int]): Per-node visitor",
    "",
    "Returns:",
    "    int: TRAVERSAL_COMPLETED, or TRAVERSAL_ABORTED if the callback broke off",
    "",
    "Raises:",
    "    TypeError: If callback is not callable",
    "    InvalidHandleError: If the cursor's translation unit is disposed,",
    "                        including by the callback itself mid-traversal",
    "    Exception: Whatever the callback raised; traversal stops immediately",
    "",
    "Example:",
    "    >>> def visit(child, parent):",
    "    ...     print(get_cursor_spelling(child))",
    "    ...     return CXChildVisit_Recurse",
    "    >>> visit_children(get_translation_unit_cursor(tu), visit)"]
  | _ => none

end Function

end SyntaxHandles.Dynamic
