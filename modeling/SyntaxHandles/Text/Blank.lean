import SyntaxHandles.Text.Ranges

-- Characters that separate words, and characters that end lines.

namespace SyntaxHandles.Text

def blankRanges : Array (Nat × Nat) := #[
  (0x9, 0xd), (0x1c, 0x20), (0x85, 0x85), (0xa0, 0xa0), (0x1680, 0x1680), (0x2000, 0x200a),
  (0x2028, 0x2029), (0x202f, 0x202f), (0x205f, 0x205f), (0x3000, 0x3000)]

def isBlank (c : Char) : Bool :=
  isWithin blankRanges c

-- Blanks of ASCII, without the characters that separate records.
def isSpace (c : Char) : Bool :=
  c = ' ' || ('\t' ≤ c && c ≤ '\x0d')

def lineEndRanges : Array (Nat × Nat) := #[
  (0xa, 0xd), (0x1c, 0x1e), (0x85, 0x85), (0x2028, 0x2029)]

def isLineEnd (c : Char) : Bool :=
  isWithin lineEndRanges c

end SyntaxHandles.Text
