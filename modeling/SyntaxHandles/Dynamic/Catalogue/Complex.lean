import SyntaxHandles.Dynamic.Catalogue.Member

-- What hosts know of numbers of two parts.

namespace SyntaxHandles.Dynamic.Catalogue

-- What numbers of two parts have.
def ofComplex : List Member :=
  [.maker] ++
  operations [
    "__repr__", "__hash__", "__getattribute__", "__lt__", "__le__", "__eq__", "__ne__",
    "__gt__", "__ge__", "__add__", "__radd__", "__sub__", "__rsub__", "__mul__", "__rmul__",
    "__pow__", "__rpow__", "__neg__", "__pos__", "__abs__", "__bool__", "__truediv__",
    "__rtruediv__"] ++
  [
    simple "conjugate" [
      "Return the complex conjugate of its argument. (3-4j).conjugate() == 3+4j."],
    simple "__complex__" ["Convert this value to exact type complex."],
    .method "__getnewargs__" (some "($self, /)") none,
    .method "__format__" (some "($self, format_spec, /)") (some [
      "Convert to a string according to format_spec."]),
    .stored "real" (some ["the real part of a complex number"]),
    .stored "imag" (some ["the imaginary part of a complex number"]),
    .documentation (some [
      "Create a complex number from a real part and an optional imaginary part.",
      "",
      "This is equivalent to (real + imag*1j) where imag defaults to 0."])]

end SyntaxHandles.Dynamic.Catalogue
