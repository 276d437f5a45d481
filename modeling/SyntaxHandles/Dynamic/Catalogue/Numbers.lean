import SyntaxHandles.Dynamic.Catalogue.Member

-- What hosts know of numbers.

namespace SyntaxHandles.Dynamic.Catalogue

-- What whole numbers have.
def ofInts : List Member :=
  [.maker] ++
  operations [
    "__repr__", "__hash__", "__getattribute__", "__lt__", "__le__", "__eq__", "__ne__",
    "__gt__", "__ge__", "__add__", "__radd__", "__sub__", "__rsub__", "__mul__", "__rmul__",
    "__mod__", "__rmod__", "__divmod__", "__rdivmod__", "__pow__", "__rpow__", "__neg__",
    "__pos__", "__abs__", "__bool__", "__invert__", "__lshift__", "__rlshift__", "__rshift__",
    "__rrshift__", "__and__", "__rand__", "__xor__", "__rxor__", "__or__", "__ror__",
    "__int__", "__float__", "__floordiv__", "__rfloordiv__", "__truediv__", "__rtruediv__",
    "__index__"] ++
  [
    .method "conjugate" none (some ["Returns self, the complex conjugate of any int."]),
    simple "bit_length" [
      "Number of bits necessary to represent self in binary.",
      "",
      ">>> bin(37)",
      "'0b100101'",
      ">>> (37).bit_length()",
      "6"],
    simple "bit_count" [
      "Number of ones in the binary representation of the absolute value of self.",
      "",
      "Also known as the population count.",
      "",
      ">>> bin(13)",
      "'0b1101'",
      ">>> (13).bit_count()",
      "3"],
    .method "to_bytes" (some "($self, /, length=1, byteorder='big', *, signed=False)") (some [
      "Return an array of bytes representing an integer.",
      "",
      "  length",
      "    Length of bytes object to use.  An OverflowError is raised if the",
      "    integer is not representable with the given number of bytes.  Default",
      "    is length 1.",
      "  byteorder",
      "    The byte order used to represent the integer.  If byteorder is 'big',",
      "    the most significant byte is at the beginning of the byte array.  If",
      "    byteorder is 'little', the most significant byte is at the end of the",
      "    byte array.  To request the native byte order of the host system, use",
      "    `sys.byteorder' as the byte order value.  Default is to use 'big'.",
      "  signed",
      "    Determines whether two's complement is used to represent the integer.",
      "    If signed is False and a negative integer is given, an OverflowError",
      "    is raised."]),
    .ofClass "from_bytes" (some "($type, /, bytes, byteorder='big', *, signed=False)") (some [
      "Return the integer represented by the given array of bytes.",
      "",
      "  bytes",
      "    Holds the array of bytes to convert.  The argument must either",
      "    support the buffer protocol or be an iterable object producing bytes.",
      "    Bytes and bytearray are examples of built-in objects that support the",
      "    buffer protocol.",
      "  byteorder",
      "    The byte order used to represent the integer.  If byteorder is 'big',",
      "    the most significant byte is at the beginning of the byte array.  If",
      "    byteorder is 'little', the most significant byte is at the end of the",
      "    byte array.  To request the native byte order of the host system, use",
      "    `sys.byteorder' as the byte order value.  Default is to use 'big'.",
      "  signed",
      "    Indicates whether two's complement is used to represent the integer."]),
    simple "as_integer_ratio" [
      "Return integer ratio.",
      "",
      "Return a pair of integers, whose ratio is exactly equal to the original int",
      "and with a positive denominator.",
      "",
      ">>> (10).as_integer_ratio()",
      "(10, 1)",
      ">>> (-10).as_integer_ratio()",
      "(-10, 1)",
      ">>> (0).as_integer_ratio()",
      "(0, 1)"],
    .method "__trunc__" none (some ["Truncating an Integral returns itself."]),
    .method "__floor__" none (some ["Flooring an Integral returns itself."]),
    .method "__ceil__" none (some ["Ceiling of an Integral returns itself."]),
    .method "__round__" (some "($self, ndigits=<unrepresentable>, /)") (some [
      "Rounding an Integral returns itself.",
      "",
      "Rounding with an ndigits argument also returns an integer."]),
    .method "__getnewargs__" (some "($self, /)") none,
    .method "__format__" (some "($self, format_spec, /)") none,
    simple "__sizeof__" ["Returns size in memory, in bytes."],
    .computed "real" (some ["the real part of a complex number"]),
    .computed "imag" (some ["the imaginary part of a complex number"]),
    .computed "numerator" (some ["the numerator of a rational number in lowest terms"]),
    .computed "denominator" (some ["the denominator of a rational number in lowest terms"]),
    .documentation (some [
      "int([x]) -> integer",
      "int(x, base=10) -> integer",
      "",
      "Convert a number or string to an integer, or return 0 if no arguments",
      "are given.  If x is a number, return x.__int__().  For floating point",
      "numbers, this truncates towards zero.",
      "",
      "If x is not a number or if base is given, then x must be a string,",
      "bytes, or bytearray instance representing an integer literal in the",
      "given base.  The literal can be preceded by '+' or '-' and be surrounded",
      "by whitespace.  The base defaults to 10.  Valid bases are 0 and 2-36.",
      "Base 0 means to interpret the base from the string as an integer literal.",
      ">>> int('0b100', base=0)",
      "4"])]

-- What flags have beside what numbers have.
def ofFlags : List Member :=
  [.maker] ++
  operations ["__repr__", "__and__", "__rand__", "__xor__", "__rxor__", "__or__", "__ror__"] ++
  [
    .documentation (some [
      "bool(x) -> bool",
      "",
      "Returns True when the argument x is true, False otherwise.",
      "The builtins True and False are the only two instances of the class bool.",
      "The class bool is a subclass of the class int, and cannot be subclassed."])]

-- What floating-point numbers have.
def ofFloats : List Member :=
  [.maker] ++
  operations [
    "__repr__", "__hash__", "__getattribute__", "__lt__", "__le__", "__eq__", "__ne__",
    "__gt__", "__ge__", "__add__", "__radd__", "__sub__", "__rsub__", "__mul__", "__rmul__",
    "__mod__", "__rmod__", "__divmod__", "__rdivmod__", "__pow__", "__rpow__", "__neg__",
    "__pos__", "__abs__", "__bool__", "__int__", "__float__", "__floordiv__", "__rfloordiv__",
    "__truediv__", "__rtruediv__"] ++
  [
    simple "conjugate" ["Return self, the complex conjugate of any float."],
    simple "__trunc__" ["Return the Integral closest to x between 0 and x."],
    simple "__floor__" ["Return the floor as an Integral."],
    simple "__ceil__" ["Return the ceiling as an Integral."],
    .method "__round__" (some "($self, ndigits=None, /)") (some [
      "Return the Integral closest to x, rounding half toward even.",
      "",
      "When an argument is passed, work like built-in round(x, ndigits)."]),
    simple "as_integer_ratio" [
      "Return integer ratio.",
      "",
      "Return a pair of integers, whose ratio is exactly equal to the original float",
      "and with a positive denominator.",
      "",
      "Raise OverflowError on infinities and a ValueError on NaNs.",
      "",
      ">>> (10.0).as_integer_ratio()",
      "(10, 1)",
      ">>> (0.0).as_integer_ratio()",
      "(0, 1)",
      ">>> (-.25).as_integer_ratio()",
      "(-1, 4)"],
    .ofClass "fromhex" (some "($type, string, /)") (some [
      "Create a floating-point number from a hexadecimal string.",
      "",
      ">>> float.fromhex('0x1.ffffp10')",
      "2047.984375",
      ">>> float.fromhex('-0x1p-1074')",
      "-5e-324"]),
    simple "hex" [
      "Return a hexadecimal representation of a floating-point number.",
      "",
      ">>> (-0.1).hex()",
      "'-0x1.999999999999ap-4'",
      ">>> 3.14159.hex()",
      "'0x1.921f9f01b866ep+1'"],
    simple "is_integer" ["Return True if the float is an integer."],
    .method "__getnewargs__" (some "($self, /)") none,
    .ofClass "__getformat__" (some "($type, typestr, /)") (some [
      "You probably don't want to use this function.",
      "",
      "  typestr",
      "    Must be 'double' or 'float'.",
      "",
      "It exists mainly to be used in Python's test suite.",
      "",
      "This function returns whichever of 'unknown', 'IEEE, big-endian' or 'IEEE,",
      "little-endian' best describes the format of floating point numbers used by the",
      "C type named by typestr."]),
    .method "__format__" (some "($self, format_spec, /)") (some [
      "Formats the float according to format_spec."]),
    .computed "real" (some ["the real part of a complex number"]),
    .computed "imag" (some ["the imaginary part of a complex number"]),
    .documentation (some ["Convert a string or number to a floating point number, if possible."])]

end SyntaxHandles.Dynamic.Catalogue
