import SyntaxHandles.Text.Invisible

-- Text quoted for a report, so that it can be told from the words around it and shows every
-- character it holds.

namespace SyntaxHandles.Text

-- A character that cannot be seen is named by its code point, in lower-case hexadecimal digits and
-- without padding. Single quotes need no escape between double ones.
def escaped (c : Char) : List Char :=
  match c with
  | '\x00' => ['\\', '0']
  | '\t' => ['\\', 't']
  | '\r' => ['\\', 'r']
  | '\n' => ['\\', 'n']
  | '"' => ['\\', '"']
  | '\\' => ['\\', '\\']
  | c =>
    if isInvisible c then
      ['\\', 'u', '\x7b'] ++ Nat.toDigits 16 c.toNat ++ ['\x7d']
    else [c]

def quoted (text : String) : String :=
  String.ofList ('"' :: text.toList.flatMap escaped ++ ['"'])

end SyntaxHandles.Text
