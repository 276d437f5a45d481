import SyntaxHandles.Dynamic.Catalogue.Operation

-- What a class has for its objects under a name, and what is known of it beside what it does.

namespace SyntaxHandles.Dynamic.Catalogue

inductive Member
  | operation (name : String)
  | method (name : String) (signature : Option String) (documentation : Option (List String))
  -- A method of the class, and not of its objects.
  | ofClass (name : String) (signature : Option String) (documentation : Option (List String))
  -- A function that knows neither the class nor an object.
  | shared (name : String) (signature : Option String) (documentation : Option (List String))
  | computed (name : String) (documentation : Option (List String))
  | stored (name : String) (documentation : Option (List String))
  -- What makes the objects of the class.
  | maker
  | documentation (lines : Option (List String))
  -- The objects of the class cannot be looked up by a hash.
  | hashless

def Member.name : Member → String
  | operation name | method name .. | ofClass name .. | shared name .. | computed name _
  | stored name _ => name
  | maker => "__new__"
  | documentation _ => "__doc__"
  | hashless => "__hash__"

def operations (names : List String) : List Member :=
  names.map .operation

-- A method that takes nothing but its object.
def simple (name : String) (documentation : List String) : Member :=
  .method name (some "($self, /)") (some documentation)

end SyntaxHandles.Dynamic.Catalogue
