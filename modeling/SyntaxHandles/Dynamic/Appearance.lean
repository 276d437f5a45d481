import SyntaxHandles.Decimal.Shortest
import SyntaxHandles.Dynamic.Value
import SyntaxHandles.Text.Literal

-- The texts in which values show themselves, as far as it is up to the values alone.

namespace SyntaxHandles.Dynamic.Value

-- Positionally from 1e-4 up to below 1e16, and otherwise with two digits in the exponent at least.
def floatLayout : Decimal.Layout where
  leastPositional := -4
  mostPositional := 15
  exponentDigits := 2

def floatText (x : Float) : String :=
  if x.isNaN then "nan"
  else if x.isInf then (if x < 0 then "-inf" else "inf")
  else floatLayout.text x

-- A part of a number of two parts. Nothing is added to what looks like a whole number.
def partText (x : Float) : String :=
  let text := floatText x
  if text.endsWith ".0" then String.ofList (text.toList.take (text.length - 2)) else text

-- A first part that is nothing at all is left out.
def complexText (x y : Float) : String :=
  if x == 0 && x.toBits = 0 then partText y ++ "j"
  else
    let second := partText y
    "(" ++ partText x ++ (if second.startsWith "-" then "" else "+") ++ second ++ "j)"

-- The text of a value that means the same wherever it is. Others are left out.
def constantText : Value → String
  | nothing => "None"
  | flag b => if b then "True" else "False"
  | int n _ => toString n
  | float x _ => floatText x
  | complex x y _ => complexText x y
  | text s _ => Text.literal s
  | bytes given _ => Text.bytesLiteral given
  | undecided => "NotImplemented"
  | _ => "..."

def tokenText (what : Class) (kind : Int32) (owner : ResourceId) : String :=
  what.name ++ "(kind=" ++ toString kind ++ ", owner=" ++ owner.text ++ ")"

-- The title is that of the class which has the feature.
def featureText (title : String) (kind : FeatureKind) (name : String) : String :=
  let what := match kind with
    | .operation => "slot wrapper"
    | .method | .ofClass => "method"
    | .computed => "attribute"
    | .stored => "member"
  "<" ++ what ++ " '" ++ name ++ "' of '" ++ title ++ "' objects>"

def listText (items : List String) : String :=
  "[" ++ ", ".intercalate items ++ "]"

-- One item alone is told from an item in brackets by a comma.
def tupleText : List String → String
  | [item] => "(" ++ item ++ ",)"
  | items => "(" ++ ", ".intercalate items ++ ")"

-- Empty brackets would be those of a table.
def setText : List String → String
  | [] => "set()"
  | items => "\x7b" ++ ", ".intercalate items ++ "\x7d"

def entriesText (entries : List (String × String)) : String :=
  let texts := entries.map fun (key, value) => key ++ ": " ++ value
  "\x7b" ++ ", ".intercalate texts ++ "\x7d"

end SyntaxHandles.Dynamic.Value
