import SyntaxHandles.Dynamic.Catalogue.Member

-- What hosts know of functions, of the features of classes, and of choices between classes.

namespace SyntaxHandles.Dynamic.Catalogue

-- What functions have.
def ofFunctions : List Member :=
  operations [
    "__repr__", "__hash__", "__call__", "__getattribute__", "__lt__", "__le__", "__eq__",
    "__ne__", "__gt__", "__ge__"] ++
  [
    .method "__reduce__" none none,
    .stored "__module__" none,
    .computed "__doc__" none,
    .computed "__name__" none,
    .computed "__qualname__" none,
    .computed "__self__" none,
    .computed "__text_signature__" none]

-- What methods have as features of a class.
def ofMethods : List Member :=
  operations ["__repr__", "__call__", "__getattribute__", "__get__"] ++
  [
    .method "__reduce__" none none,
    .stored "__objclass__" none,
    .stored "__name__" none,
    .computed "__doc__" none,
    .computed "__qualname__" none,
    .computed "__text_signature__" none]

-- What operations have as features of a class.
def ofOperations : List Member :=
  operations ["__repr__", "__call__", "__getattribute__", "__get__"] ++
  [
    .method "__reduce__" none none,
    .stored "__objclass__" none,
    .stored "__name__" none,
    .computed "__doc__" none,
    .computed "__qualname__" none,
    .computed "__text_signature__" none]

-- What computed attributes have as features of a class.
def ofComputed : List Member :=
  operations ["__repr__", "__getattribute__", "__get__", "__set__", "__delete__"] ++
  [
    .stored "__objclass__" none,
    .stored "__name__" none,
    .computed "__doc__" none,
    .computed "__qualname__" none]

-- What stored attributes have as features of a class.
def ofStored : List Member :=
  operations ["__repr__", "__getattribute__", "__get__", "__set__", "__delete__"] ++
  [
    .method "__reduce__" none none,
    .stored "__objclass__" none,
    .stored "__name__" none,
    .computed "__doc__" none,
    .computed "__qualname__" none]

-- What methods have that belong to a class.
def ofOfClasses : List Member :=
  operations ["__repr__", "__call__", "__getattribute__", "__get__"] ++
  [
    .stored "__objclass__" none,
    .stored "__name__" none,
    .computed "__doc__" none,
    .computed "__qualname__" none,
    .computed "__text_signature__" none]

-- What choices between classes have.
def ofUnions : List Member :=
  operations [
    "__repr__", "__hash__", "__getattribute__", "__lt__", "__le__", "__eq__", "__ne__",
    "__gt__", "__ge__", "__or__", "__ror__", "__getitem__"] ++
  [
    .stored "__args__" none,
    .computed "__parameters__" (some ["Type variables in the types.UnionType."]),
    .documentation (some ["Represent a PEP 604 union type", "", "E.g. for int | str"])]

-- What classes have that are told what they hold.
def ofGenerics : List Member :=
  [.maker] ++
  operations [
    "__repr__", "__hash__", "__call__", "__getattribute__", "__lt__", "__le__", "__eq__",
    "__ne__", "__gt__", "__ge__", "__iter__", "__or__", "__ror__", "__getitem__"] ++
  [
    .method "__mro_entries__" none none,
    .method "__instancecheck__" none none,
    .method "__subclasscheck__" none none,
    .method "__reduce__" none none,
    .method "__dir__" none none,
    .stored "__origin__" none,
    .stored "__args__" none,
    .stored "__unpacked__" none,
    .computed "__parameters__" (some ["Type variables in the GenericAlias."]),
    .computed "__typing_unpacked_tuple_args__" none,
    .documentation (some [
      "Represent a PEP 585 generic type",
      "",
      "E.g. for t = list[int], t.__origin__ is list and t.__args__ is (int,)."])]

end SyntaxHandles.Dynamic.Catalogue
