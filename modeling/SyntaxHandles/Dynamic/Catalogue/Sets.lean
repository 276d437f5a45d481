import SyntaxHandles.Dynamic.Catalogue.Member

-- What hosts know of sets.

namespace SyntaxHandles.Dynamic.Catalogue

-- What sets have.
def ofSets : List Member :=
  [.maker] ++
  operations ["__repr__"] ++
  [.hashless] ++
  operations [
    "__getattribute__", "__lt__", "__le__", "__eq__", "__ne__", "__gt__", "__ge__", "__iter__",
    "__init__", "__sub__", "__rsub__", "__and__", "__rand__", "__xor__", "__rxor__", "__or__",
    "__ror__", "__isub__", "__iand__", "__ixor__", "__ior__", "__len__"] ++
  [
    .method "__contains__" none (some ["x.__contains__(y) <==> y in x."]),
    .method "add" none (some [
      "Add an element to a set.",
      "",
      "This has no effect if the element is already present."]),
    .method "clear" none (some ["Remove all elements from this set."]),
    .method "copy" none (some ["Return a shallow copy of a set."]),
    .method "discard" none (some [
      "Remove an element from a set if it is a member.",
      "",
      "Unlike set.remove(), the discard() method does not raise",
      "an exception when an element is missing from the set."]),
    .method "difference" none (some [
      "Return the difference of two or more sets as a new set.",
      "",
      "(i.e. all elements that are in this set but not the others.)"]),
    .method "difference_update" none (some ["Remove all elements of another set from this set."]),
    .method "intersection" none (some [
      "Return the intersection of two sets as a new set.",
      "",
      "(i.e. all elements that are in both sets.)"]),
    .method "intersection_update" none (some [
      "Update a set with the intersection of itself and another."]),
    .method "isdisjoint" none (some ["Return True if two sets have a null intersection."]),
    .method "issubset" (some "($self, other, /)") (some [
      "Test whether every element in the set is in other."]),
    .method "issuperset" (some "($self, other, /)") (some [
      "Test whether every element in other is in the set."]),
    .method "pop" none (some [
      "Remove and return an arbitrary set element.",
      "Raises KeyError if the set is empty."]),
    .method "__reduce__" none (some ["Return state information for pickling."]),
    .method "remove" none (some [
      "Remove an element from a set; it must be a member.",
      "",
      "If the element is not a member, raise a KeyError."]),
    .method "__sizeof__" none (some ["S.__sizeof__() -> size of S in memory, in bytes"]),
    .method "symmetric_difference" none (some [
      "Return the symmetric difference of two sets as a new set.",
      "",
      "(i.e. all elements that are in exactly one of the sets.)"]),
    .method "symmetric_difference_update" none (some [
      "Update a set with the symmetric difference of itself and another."]),
    .method "union" none (some [
      "Return the union of sets as a new set.",
      "",
      "(i.e. all elements that are in either set.)"]),
    .method "update" none (some ["Update a set with the union of itself and others."]),
    .ofClass "__class_getitem__" none (some ["See PEP 585"]),
    .documentation (some [
      "set() -> new empty set object",
      "set(iterable) -> new set object",
      "",
      "Build an unordered collection of unique elements."])]

end SyntaxHandles.Dynamic.Catalogue
