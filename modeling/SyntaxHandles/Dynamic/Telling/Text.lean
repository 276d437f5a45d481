import SyntaxHandles.Dynamic.Telling.Percent
import SyntaxHandles.Dynamic.Telling.Template

-- What texts do when they are told to.

namespace SyntaxHandles.Dynamic.Telling

def tellText (host : Host) (name : String) (chars : List Char) (values : List Value) :
    Part Value := do
  match tellLine? ofChars name chars values with
  | some part => part
  | none => match name, values with
    | "encode", values => encodeText chars values
    | "translate", [table] => exchangeChars host chars table
    | "format", values => fillTemplate host ⟨some values, none⟩ chars
    | "format_map", [table] => fillTemplate host ⟨none, some table⟩ chars
    | "__mod__", [given] => charsOf (← fillPercent host .chars chars given)
    | "__rmod__", [.text mold _] =>
      charsOf (← fillPercent host .chars mold.toList (.chars chars))
    | "__rmod__", [_] => return .undecided
    | "__sizeof__", [] => return .int (roomOfText chars)
    | _, _ => refuse

end SyntaxHandles.Dynamic.Telling
