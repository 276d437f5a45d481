import SyntaxHandles.Dynamic.Telling.Held
import SyntaxHandles.Dynamic.Telling.Items
import SyntaxHandles.Dynamic.Telling.Object
import SyntaxHandles.Dynamic.Telling.Text

-- What objects do when they are told to. A class does it for an object in the way that it has for
-- all of its objects.

namespace SyntaxHandles.Dynamic.Telling

variable (library : Native.Library) (host : Host)

-- What an object does as what it is.
def tellOwn (giver : Class) (name : String) (value : Value) (values : List Value) : Part Value :=
  match value with
  | .flag b =>
    if giver = .host "bool" then tellFlag name b values
    else tellWhole name (if b then 1 else 0) values
  | .int n _ => tellWhole name n values
  | .float x _ => tellReal name x values
  | .complex x y _ => tellComplex name ⟨x, y⟩ values
  | .text text _ => tellText host name text.toList values
  | .bytes bytes _ => tellBytes host name bytes values
  | .tuple items _ => tellTuple host name items values
  | .list identity => tellList host name identity values
  | .set identity => tellSet host name identity values
  | .table identity => tellTable host name identity values
  | .view aspect table _ => tellView host name aspect table values
  | .mirror source _ => tellMirror host name source values
  | .held .. => tellHeld library name value values
  | value => tellOther host name value values

def hashBy (giver : Class) (value : Value) : Part Value := do
  return .int (← if giver = .anything then pure 0 else host.ownHash value)

-- What a class does for an object.
def tellBy (giver : Class) (name : String) (value : Value) (values : List Value) : Part Value := do
  match Comparison.ofText? name, values with
  | some c, [other] => host.judgeBy giver c value other
  | some _, _ => refuse
  | none, values => match name, values with
    | "__repr__", [] => inspectBy host giver value
    | "__str__", [] => plainTextBy host giver value
    | "__format__", [.text spec _] => writtenBy host giver value spec
    | "__hash__", [] => hashBy host giver value
    | "__getattribute__", [.text name _] => attributeBy giver value name
    | "__setattr__", [.text name _, new] => changeBy giver value (setAttribute value name new)
    | "__delattr__", [.text name _] => changeBy giver value (deleteAttribute value name)
    | "__call__", values => host.call value values
    | name, values =>
      if giver = .anything then tellAnything host name value values
      else tellOwn library host giver name value values

end SyntaxHandles.Dynamic.Telling
