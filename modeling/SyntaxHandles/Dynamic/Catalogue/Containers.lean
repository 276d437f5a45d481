import SyntaxHandles.Dynamic.Catalogue.Member

-- What hosts know of what holds other values.

namespace SyntaxHandles.Dynamic.Catalogue

-- What lists have.
def ofLists : List Member :=
  [.maker] ++
  operations ["__repr__"] ++
  [.hashless] ++
  operations [
    "__getattribute__", "__lt__", "__le__", "__eq__", "__ne__", "__gt__", "__ge__", "__iter__",
    "__init__", "__len__"] ++
  [
    .method "__getitem__" none (some ["x.__getitem__(y) <==> x[y]"])] ++
  operations [
    "__setitem__", "__delitem__", "__add__", "__mul__", "__rmul__", "__contains__", "__iadd__",
    "__imul__"] ++
  [
    simple "__reversed__" ["Return a reverse iterator over the list."],
    simple "__sizeof__" ["Return the size of the list in memory, in bytes."],
    simple "clear" ["Remove all items from list."],
    simple "copy" ["Return a shallow copy of the list."],
    .method "append" (some "($self, object, /)") (some ["Append object to the end of the list."]),
    .method "insert" (some "($self, index, object, /)") (some ["Insert object before index."]),
    .method "extend" (some "($self, iterable, /)") (some [
      "Extend list by appending elements from the iterable."]),
    .method "pop" (some "($self, index=-1, /)") (some [
      "Remove and return item at index (default last).",
      "",
      "Raises IndexError if list is empty or index is out of range."]),
    .method "remove" (some "($self, value, /)") (some [
      "Remove first occurrence of value.",
      "",
      "Raises ValueError if the value is not present."]),
    .method "index" (some "($self, value, start=0, stop=sys.maxsize, /)") (some [
      "Return first index of value.",
      "",
      "Raises ValueError if the value is not present."]),
    .method "count" (some "($self, value, /)") (some ["Return number of occurrences of value."]),
    simple "reverse" ["Reverse *IN PLACE*."],
    .method "sort" (some "($self, /, *, key=None, reverse=False)") (some [
      "Sort the list in ascending order and return None.",
      "",
      "The sort is in-place (i.e. the list itself is modified) and stable (i.e. the",
      "order of two equal elements is maintained).",
      "",
      "If a key function is given, apply it once to each list item and sort them,",
      "ascending or descending, according to their function values.",
      "",
      "The reverse flag can be set to sort in descending order."]),
    .ofClass "__class_getitem__" none (some ["See PEP 585"]),
    .documentation (some [
      "Built-in mutable sequence.",
      "",
      "If no argument is given, the constructor creates a new empty list.",
      "The argument must be an iterable if specified."])]

-- What tuples have.
def ofTuples : List Member :=
  [.maker] ++
  operations [
    "__repr__", "__hash__", "__getattribute__", "__lt__", "__le__", "__eq__", "__ne__",
    "__gt__", "__ge__", "__iter__", "__len__", "__getitem__", "__add__", "__mul__", "__rmul__",
    "__contains__"] ++
  [
    .method "__getnewargs__" (some "($self, /)") none,
    .method "index" (some "($self, value, start=0, stop=sys.maxsize, /)") (some [
      "Return first index of value.",
      "",
      "Raises ValueError if the value is not present."]),
    .method "count" (some "($self, value, /)") (some ["Return number of occurrences of value."]),
    .ofClass "__class_getitem__" none (some ["See PEP 585"]),
    .documentation (some [
      "Built-in immutable sequence.",
      "",
      "If no argument is given, the constructor returns an empty tuple.",
      "If iterable is specified the tuple is initialized from iterable's items.",
      "",
      "If the argument is a tuple, the return value is the same object."])]

-- What tables have.
def ofTables : List Member :=
  [.maker] ++
  operations ["__repr__"] ++
  [.hashless] ++
  operations [
    "__getattribute__", "__lt__", "__le__", "__eq__", "__ne__", "__gt__", "__ge__", "__iter__",
    "__init__", "__or__", "__ror__", "__ior__", "__len__"] ++
  [
    .method "__getitem__" none (some ["x.__getitem__(y) <==> x[y]"])] ++
  operations ["__setitem__", "__delitem__"] ++
  [
    .method "__contains__" (some "($self, key, /)") (some [
      "True if the dictionary has the specified key, else False."]),
    .method "__sizeof__" none (some ["D.__sizeof__() -> size of D in memory, in bytes"]),
    .method "get" (some "($self, key, default=None, /)") (some [
      "Return the value for key if key is in the dictionary, else default."]),
    .method "setdefault" (some "($self, key, default=None, /)") (some [
      "Insert key with a value of default if key is not in the dictionary.",
      "",
      "Return the value for key if key is in the dictionary, else default."]),
    .method "pop" (some "($self, key, default=<unrepresentable>, /)") (some [
      "D.pop(k[,d]) -> v, remove specified key and return the corresponding value.",
      "",
      "If the key is not found, return the default if given; otherwise,",
      "raise a KeyError."]),
    simple "popitem" [
      "Remove and return a (key, value) pair as a 2-tuple.",
      "",
      "Pairs are returned in LIFO (last-in, first-out) order.",
      "Raises KeyError if the dict is empty."],
    .method "keys" none (some ["D.keys() -> a set-like object providing a view on D's keys"]),
    .method "items" none (some ["D.items() -> a set-like object providing a view on D's items"]),
    .method "values" none (some ["D.values() -> an object providing a view on D's values"]),
    .method "update" none (some [
      "D.update([E, ]**F) -> None.  Update D from dict/iterable E and F.",
      "If E is present and has a .keys() method, then does:  for k in E: D[k] = E[k]",
      "If E is present and lacks a .keys() method, then does:  for k, v in E: D[k] = v",
      "In either case, this is followed by: for k in F:  D[k] = F[k]"]),
    .ofClass "fromkeys" (some "($type, iterable, value=None, /)") (some [
      "Create a new dictionary with keys from iterable and values set to value."]),
    .method "clear" none (some ["D.clear() -> None.  Remove all items from D."]),
    .method "copy" none (some ["D.copy() -> a shallow copy of D"]),
    simple "__reversed__" ["Return a reverse iterator over the dict keys."],
    .ofClass "__class_getitem__" none (some ["See PEP 585"]),
    .documentation (some [
      "dict() -> new empty dictionary",
      "dict(mapping) -> new dictionary initialized from a mapping object's",
      "    (key, value) pairs",
      "dict(iterable) -> new dictionary initialized as if via:",
      "    d = \x7b\x7d",
      "    for k, v in iterable:",
      "        d[k] = v",
      "dict(**kwargs) -> new dictionary initialized with the name=value pairs",
      "    in the keyword argument list.  For example:  dict(one=1, two=2)"])]

-- What the keys of a table have, seen together.
def ofKeys : List Member :=
  operations [
    "__repr__", "__getattribute__", "__lt__", "__le__", "__eq__", "__ne__", "__gt__", "__ge__",
    "__iter__", "__sub__", "__rsub__", "__and__", "__rand__", "__xor__", "__rxor__", "__or__",
    "__ror__", "__len__", "__contains__"] ++
  [
    .method "isdisjoint" none (some [
      "Return True if the view and the given iterable have a null intersection."]),
    .method "__reversed__" none (some ["Return a reverse iterator over the dict keys."]),
    .computed "mapping" (some ["dictionary that this view refers to"]),
    .documentation none,
    .hashless]

-- What the values of a table have, seen together.
def ofValues : List Member :=
  operations ["__repr__", "__getattribute__", "__iter__", "__len__"] ++
  [
    .method "__reversed__" none (some ["Return a reverse iterator over the dict values."]),
    .computed "mapping" (some ["dictionary that this view refers to"]),
    .documentation none]

-- What the pairs of a table have, seen together.
def ofItems : List Member :=
  operations [
    "__repr__", "__getattribute__", "__lt__", "__le__", "__eq__", "__ne__", "__gt__", "__ge__",
    "__iter__", "__sub__", "__rsub__", "__and__", "__rand__", "__xor__", "__rxor__", "__or__",
    "__ror__", "__len__", "__contains__"] ++
  [
    .method "isdisjoint" none (some [
      "Return True if the view and the given iterable have a null intersection."]),
    .method "__reversed__" none (some ["Return a reverse iterator over the dict items."]),
    .computed "mapping" (some ["dictionary that this view refers to"]),
    .documentation none,
    .hashless]

-- What tables have that can only be read.
def ofMirrors : List Member :=
  [.maker] ++
  operations [
    "__repr__", "__str__", "__getattribute__", "__lt__", "__le__", "__eq__", "__ne__",
    "__gt__", "__ge__", "__iter__", "__or__", "__ror__", "__ior__", "__len__", "__getitem__",
    "__contains__"] ++
  [
    .method "get" none (some ["D.get(k[,d]) -> D[k] if k in D, else d.  d defaults to None."]),
    .method "keys" none (some ["D.keys() -> a set-like object providing a view on D's keys"]),
    .method "values" none (some ["D.values() -> an object providing a view on D's values"]),
    .method "items" none (some ["D.items() -> a set-like object providing a view on D's items"]),
    .method "copy" none (some ["D.copy() -> a shallow copy of D"]),
    .ofClass "__class_getitem__" none (some ["See PEP 585"]),
    .method "__reversed__" none (some ["D.__reversed__() -> reverse iterator"]),
    .documentation none,
    .hashless]

end SyntaxHandles.Dynamic.Catalogue
