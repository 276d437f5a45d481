import SyntaxHandles.Decimal.Shortest
import SyntaxHandles.Text.Quoted

-- What can be wrong with a text that is read as an options record, where it was noticed, and the
-- words in which it is reported.

namespace SyntaxHandles.Json

-- A value that was found where another shape was expected.
inductive Found
  | null
  | boolean (b : Bool)
  | integer (n : Int)
  | floating (x : Float)
  | string (text : String)
  | sequence
  | map

inductive Cause
  | endInValue
  | endInString
  | endInList
  | endInObject
  | expectedValue
  | expectedIdent
  | expectedColon
  | expectedListCommaOrEnd
  | expectedObjectCommaOrEnd
  | keyNotString
  | trailingComma
  | trailingCharacters
  | invalidNumber
  | numberOutOfRange
  | invalidEscape
  | controlCharacter
  | unfinishedSurrogatePair
  | loneSurrogate
  | wrongType (found : Found) (expected : String)
  | wrongValue (found : Found) (expected : String)
  | duplicateField (name : String)

-- A failure keeps the text that was still unread, and how many bytes of it had been looked at and
-- count as consumed all the same.
structure Failure where
  cause : Cause
  unread : List Char
  ahead : Nat

def Failure.at (cause : Cause) (unread : List Char) : Failure :=
  ⟨cause, unread, 0⟩

-- The byte at the front of the unread text is the offending one.
def Failure.peeked (cause : Cause) (unread : List Char) : Failure :=
  ⟨cause, unread, 1⟩

-- Numbers that are no integers are written with a point or an exponent: positionally from 1e-5 up
-- to below 1e16, and with a signed exponent above.
def floatLayout : Decimal.Layout where
  leastPositional := -5
  mostPositional := 15

def Found.text : Found → String
  | .null => "null"
  | .boolean b => "boolean `" ++ (if b then "true" else "false") ++ "`"
  | .integer n => "integer `" ++ toString n ++ "`"
  | .floating x => "floating point `" ++ floatLayout.text x ++ "`"
  | .string text => "string " ++ Text.quoted text
  | .sequence => "sequence"
  | .map => "map"

def Cause.text : Cause → String
  | .endInValue => "EOF while parsing a value"
  | .endInString => "EOF while parsing a string"
  | .endInList => "EOF while parsing a list"
  | .endInObject => "EOF while parsing an object"
  | .expectedValue => "expected value"
  | .expectedIdent => "expected ident"
  | .expectedColon => "expected `:`"
  | .expectedListCommaOrEnd => "expected `,` or `]`"
  | .expectedObjectCommaOrEnd => "expected `,` or `\x7d`"
  | .keyNotString => "key must be a string"
  | .trailingComma => "trailing comma"
  | .trailingCharacters => "trailing characters"
  | .invalidNumber => "invalid number"
  | .numberOutOfRange => "number out of range"
  | .invalidEscape => "invalid escape"
  | .controlCharacter => "control character (\\u0000-\\u001F) found while parsing a string"
  | .unfinishedSurrogatePair => "unexpected end of hex escape"
  | .loneSurrogate => "lone leading surrogate in hex escape"
  | .wrongType found expected => "invalid type: " ++ found.text ++ ", expected " ++ expected
  | .wrongValue found expected => "invalid value: " ++ found.text ++ ", expected " ++ expected
  | .duplicateField name => "duplicate field `" ++ name ++ "`"

def byteSize (chars : List Char) : Nat :=
  chars.foldl (fun size c => size + c.utf8Size) 0

structure Position where
  line : Nat := 1
  column : Nat := 0

-- The position after so many bytes of a text: lines count from one, columns are bytes since the
-- last line break. Bytes beyond the end of the text do not count.
def Position.advance : Position → Nat → List Char → Position
  | position, 0, _ => position
  | position, _, [] => position
  | position, bytes + 1, c :: rest =>
    if c = '\n' then advance ⟨position.line + 1, 0⟩ bytes rest
    else
      let step := min c.utf8Size (bytes + 1)
      advance { position with column := position.column + step } (bytes + 1 - step) rest

def Failure.position (failure : Failure) (text : List Char) : Position :=
  let read := byteSize text - byteSize failure.unread
  Position.advance {} (read + failure.ahead) text

def Failure.message (failure : Failure) (text : List Char) : String :=
  let position := failure.position text
  failure.cause.text ++ " at line " ++ toString position.line ++
    " column " ++ toString position.column

end SyntaxHandles.Json
