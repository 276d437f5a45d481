import SyntaxHandles.Dynamic.Catalogue.Member

-- What hosts know of all objects, of classes, of exceptions and of interfaces.

namespace SyntaxHandles.Dynamic.Catalogue

-- What all objects have.
def ofAnything : List Member :=
  [.maker] ++
  operations [
    "__repr__", "__hash__", "__str__", "__getattribute__", "__setattr__", "__delattr__",
    "__lt__", "__le__", "__eq__", "__ne__", "__gt__", "__ge__", "__init__"] ++
  [
    .method "__reduce_ex__" (some "($self, protocol, /)") (some ["Helper for pickle."]),
    simple "__reduce__" ["Helper for pickle."],
    simple "__getstate__" ["Helper for pickle."],
    .ofClass "__subclasshook__" none (some [
      "Abstract classes can override this to customize issubclass().",
      "",
      "This is invoked early on by abc.ABCMeta.__subclasscheck__().",
      "It should return True, False or NotImplemented.  If it returns",
      "NotImplemented, the normal algorithm is used.  Otherwise, it",
      "overrides the normal algorithm (and the outcome is cached).",
      ""]),
    .ofClass "__init_subclass__" none (some [
      "This method is called when a class is subclassed.",
      "",
      "The default implementation does nothing. It may be",
      "overridden to extend subclasses.",
      ""]),
    .method "__format__" (some "($self, format_spec, /)") (some ["Default object formatter."]),
    simple "__sizeof__" ["Size of object in memory, in bytes."],
    simple "__dir__" ["Default dir() implementation."],
    .computed "__class__" (some ["the object's class"]),
    .documentation (some [
      "The base class of the class hierarchy.",
      "",
      "When called, it accepts no arguments and returns a new featureless",
      "instance that has no instance attributes and cannot be given any.",
      ""])]

-- What classes have.
def ofClasses : List Member :=
  [.maker] ++
  operations [
    "__repr__", "__call__", "__getattribute__", "__setattr__", "__delattr__", "__init__",
    "__or__", "__ror__"] ++
  [
    simple "mro" ["Return a type's method resolution order."],
    simple "__subclasses__" ["Return a list of immediate subclasses."],
    .ofClass "__prepare__" none (some [
      "__prepare__() -> dict",
      "used to create the namespace for the class statement"]),
    .method "__instancecheck__" (some "($self, instance, /)") (some [
      "Check if an object is an instance."]),
    .method "__subclasscheck__" (some "($self, subclass, /)") (some [
      "Check if a class is a subclass."]),
    simple "__dir__" ["Specialized __dir__ implementation for types."],
    simple "__sizeof__" ["Return memory consumption of the type object."],
    .stored "__basicsize__" none,
    .stored "__itemsize__" none,
    .stored "__flags__" none,
    .stored "__weakrefoffset__" none,
    .stored "__base__" none,
    .stored "__dictoffset__" none,
    .stored "__mro__" none,
    .computed "__name__" none,
    .computed "__qualname__" none,
    .computed "__bases__" none,
    .computed "__module__" none,
    .computed "__abstractmethods__" none,
    .computed "__dict__" none,
    .computed "__doc__" none,
    .computed "__text_signature__" none,
    .computed "__annotations__" none]

-- What the one value has that says nothing.
def ofNothing : List Member :=
  [.maker] ++
  operations ["__repr__", "__bool__"] ++
  [.documentation none]

-- What the answer has that decides nothing.
def ofUndecided : List Member :=
  [.maker] ++
  operations ["__repr__", "__bool__"] ++
  [
    .method "__reduce__" none none,
    .documentation none]

-- What exceptions have.
def ofExceptions : List Member :=
  [.maker] ++
  operations [
    "__repr__", "__str__", "__getattribute__", "__setattr__", "__delattr__", "__init__"] ++
  [
    .method "__reduce__" none none,
    .method "__setstate__" none none,
    .method "with_traceback" none (some [
      "Exception.with_traceback(tb) --",
      "    set self.__traceback__ to tb and return self."]),
    .method "add_note" none (some [
      "Exception.add_note(note) --",
      "    add a note to the exception"]),
    .stored "__suppress_context__" none,
    .computed "__dict__" none,
    .computed "args" none,
    .computed "__traceback__" none,
    .computed "__context__" (some ["exception context"]),
    .computed "__cause__" (some ["exception cause"]),
    .documentation (some ["Common base class for all exceptions"])]

-- What ordinary exceptions have beside that.
def ofOrdinaryExceptions : List Member :=
  [.maker] ++
  operations ["__init__"] ++
  [
    .documentation (some ["Common base class for all non-exit exceptions."])]

-- What interfaces have.
def ofModules : List Member :=
  [.maker] ++
  operations ["__repr__", "__getattribute__", "__setattr__", "__delattr__", "__init__"] ++
  [
    .method "__dir__" none (some ["__dir__() -> list", "specialized dir() implementation"]),
    .stored "__dict__" none,
    .computed "__annotations__" none,
    .documentation (some [
      "Create a module object.",
      "",
      "The name must be a string; the optional doc argument can have any type."])]

end SyntaxHandles.Dynamic.Catalogue
