-- Families of named constants. A tag has the number that stands for it in the native interface, the
-- name under which hosts see that number, and a name of its own for reports.

namespace SyntaxHandles

class Constant (α : Type) where
  all : List α
  name : α → String
  raw : α → Int
  exported : α → String

namespace Constant

variable {α : Type} [Constant α]

-- The tag behind a number, if the family names it. Numbers are compared as they are: one outside
-- the native width is never folded onto a tag.
def ofRaw? (number : Int) : Option α :=
  (all : List α).find? fun tag => raw tag == number

def ofName? (text : String) : Option α :=
  (all : List α).find? fun tag => name tag == text

-- What hosts see of a family, in the order of its tags.
def exports (α : Type) [Constant α] : List (String × Int) :=
  (all : List α).map fun tag => (exported tag, raw tag)

end Constant

end SyntaxHandles
