-- Values as they are written: without blanks, with the members of an object in the order in which
-- they are given.

namespace SyntaxHandles.Json

inductive Value
  | null
  | bool (b : Bool)
  | number (n : Nat)
  | string (text : String)
  | list (elements : List Value)
  | object (members : List (String × Value))

def hexDigit (n : Nat) : Char :=
  (Nat.toDigits 16 n).headD '0'

-- Quotes, backslashes and control characters are escaped, by a letter where there is one.
def escapeChar (c : Char) : List Char :=
  if c = '"' then ['\\', '"']
  else if c = '\\' then ['\\', '\\']
  else if c = '\x08' then ['\\', 'b']
  else if c = '\x0c' then ['\\', 'f']
  else if c = '\n' then ['\\', 'n']
  else if c = '\r' then ['\\', 'r']
  else if c = '\t' then ['\\', 't']
  else if c.toNat < 0x20 then
    ['\\', 'u', '0', '0', hexDigit (c.toNat / 16), hexDigit (c.toNat % 16)]
  else [c]

def writeString (text : String) : List Char :=
  '"' :: text.toList.flatMap escapeChar ++ ['"']

mutual

def Value.write : Value → List Char
  | .null => "null".toList
  | .bool b => if b then "true".toList else "false".toList
  | .number n => Nat.toDigits 10 n
  | .string text => writeString text
  | .list elements => '[' :: writeElements elements ++ [']']
  | .object members => '\x7b' :: writeMembers members ++ ['\x7d']

def writeElements : List Value → List Char
  | [] => []
  | [value] => value.write
  | value :: rest => value.write ++ ',' :: writeElements rest

def writeMembers : List (String × Value) → List Char
  | [] => []
  | [(name, value)] => writeString name ++ ':' :: value.write
  | (name, value) :: rest => writeString name ++ ':' :: value.write ++ ',' :: writeMembers rest

end

def Value.text (value : Value) : String :=
  String.ofList value.write

end SyntaxHandles.Json
