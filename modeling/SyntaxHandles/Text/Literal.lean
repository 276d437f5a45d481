import SyntaxHandles.Text.Unprintable

-- Text and bytes as literals in single quotes, or in double ones where that saves escapes.

namespace SyntaxHandles.Text

def paddedHex (width n : Nat) : List Char :=
  let digits := Nat.toDigits 16 n
  List.replicate (width - digits.length) '0' ++ digits

def quoteFor (chars : List Char) : Char :=
  if chars.contains '\x27' && !chars.contains '"' then '"' else '\x27'

-- A character that cannot be printed is named by its code point, in the shortest of three widths.
def escapedFor (quote c : Char) : List Char :=
  if c = quote ∨ c = '\\' then ['\\', c]
  else if c = '\n' then ['\\', 'n']
  else if c = '\r' then ['\\', 'r']
  else if c = '\t' then ['\\', 't']
  else if !isUnprintable c then [c]
  else if c.toNat < 0x100 then '\\' :: 'x' :: paddedHex 2 c.toNat
  else if c.toNat < 0x10000 then '\\' :: 'u' :: paddedHex 4 c.toNat
  else '\\' :: 'U' :: paddedHex 8 c.toNat

def literal (text : String) : String :=
  let chars := text.toList
  let quote := quoteFor chars
  String.ofList (quote :: chars.flatMap (escapedFor quote) ++ [quote])

-- Bytes are written as the characters of ASCII that they are, and the others by their numbers.
def bytesLiteral (bytes : List UInt8) : String :=
  let chars := bytes.map fun byte => Char.ofNat byte.toNat
  let quote := quoteFor chars
  let escapedByte (c : Char) : List Char :=
    if c.toNat < 0x80 then escapedFor quote c else '\\' :: 'x' :: paddedHex 2 c.toNat
  String.ofList ('b' :: quote :: chars.flatMap escapedByte ++ [quote])

end SyntaxHandles.Text
