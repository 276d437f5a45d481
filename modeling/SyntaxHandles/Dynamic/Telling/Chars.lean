import SyntaxHandles.Dynamic.Telling.Line
import SyntaxHandles.Text.Blank
import SyntaxHandles.Text.CaseMap
import SyntaxHandles.Text.Encoding
import SyntaxHandles.Text.Identifier
import SyntaxHandles.Text.Number
import SyntaxHandles.Text.Unprintable

-- What becomes of the characters of a text: what kind they are of, how they are mapped, and which
-- bytes they are in an encoding.

namespace SyntaxHandles.Dynamic.Telling

open Sequence

-- Whether a text has characters of one kind and none of the others.
def hasOnly (isOne isOther : Char → Bool) (chars : List Char) : Bool :=
  chars.any isOne && !chars.any isOther

def areAll (isOne : Char → Bool) (chars : List Char) : Bool :=
  !chars.isEmpty && chars.all isOne

def isWordChar (c : Char) : Bool :=
  Text.isLetter c || Text.isDecimal c || Text.isDigit c || Text.isNumeric c

def charTest? : String → Option (List Char → Bool)
  | "isascii" => some fun chars => chars.all fun c => c.toNat < 0x80
  | "islower" => some (hasOnly Text.isSmall fun c => Text.isCapital c || Text.isHead c)
  | "isupper" => some (hasOnly Text.isCapital fun c => Text.isSmall c || Text.isHead c)
  | "istitle" => some Text.isTitledText
  | "isspace" => some (areAll Text.isBlank)
  | "isdecimal" => some (areAll Text.isDecimal)
  | "isdigit" => some (areAll Text.isDigit)
  | "isnumeric" => some (areAll Text.isNumeric)
  | "isalpha" => some (areAll Text.isLetter)
  | "isalnum" => some (areAll isWordChar)
  | "isidentifier" => some Text.isName
  | "isprintable" => some fun chars => !chars.any Text.isUnprintable
  | _ => none

def charMap? : String → Option (List Char → List Char)
  | "lower" => some Text.smallText
  | "upper" => some Text.capitalText
  | "casefold" => some Text.foldedText
  | "swapcase" => some Text.swappedText
  | "capitalize" => some Text.capitalizedText
  | "title" => some Text.titledText
  | _ => none

def charsOf? : Value → Option (List Char)
  | .text text _ => some text.toList
  | _ => none

def ofChars : Alphabet Char where
  line := .chars
  item := .char
  read? := charsOf?
  readPart value := orRefuse (charsOf? value)
  ofChar := id
  isBlank := Text.isBlank
  lines := lines Text.isLineEnd (· = '\r') (· = '\n')
  absent := "substring not found"
  isEach := charTest?
  mapped := charMap?

def noZero : String := "embedded null character"

-- A name among the values, if there is one.
def nameAmong (values : List Value) (place : Nat) (default : String) : Part String := do
  match values[place]? with
  | none => return default
  | some value =>
    let name ← asText value
    if name.contains '\x00' then raise (.value noZero)
    return name

-- How an encoding goes about what it cannot express is only asked when there is such a thing.
def encoded (encoding : Text.Encoding) (handling : String) (chars : List Char) :
    Part (List UInt8) := do
  let pieces ← chars.mapM fun c => do
    match encoding.encodeChar? c with
    | some bytes => return bytes
    | none =>
      let handling ← match Text.Handling.ofName? handling with
        | some handling => pure handling
        | none => raise .unknown
      match handling.forChar? c with
      | some stand => return stand.flatMap fun c => (encoding.encodeChar? c).getD []
      | none => raise .unencodable
  return encoding.encodedMark ++ pieces.flatten

def decoded (encoding : Text.Encoding) (handling : String) (bytes : List UInt8) :
    Part (List Char) := do
  let pieces ← (encoding.decodePieces bytes).mapM fun
    | .char c => return [c]
    | .broken bytes => do
      let handling ← match Text.Handling.ofName? handling with
        | some handling => pure handling
        | none => raise .unknown
      match handling.forBytes? bytes with
      | some stand => return stand
      | none => if handling matches .reference then refuse else raise .undecodable
  return pieces.flatten

def encodingOf (name : String) : Part Text.Encoding :=
  match Text.Encoding.ofName? name with
  | some encoding => pure encoding
  | none => raise .unknown

def encodeText (chars : List Char) (values : List Value) : Part Value := do
  if 2 < values.length then refuse
  let encoding ← nameAmong values 0 "utf-8"
  let handling ← nameAmong values 1 "strict"
  return .bytes (← encoded (← encodingOf encoding) handling chars)

def decodeBytes (bytes : List UInt8) (values : List Value) : Part Value := do
  if 2 < values.length then refuse
  let encoding ← nameAmong values 0 "utf-8"
  let handling ← nameAmong values 1 "strict"
  charsOf (← decoded (← encodingOf encoding) handling bytes)

def beyondChars : String := "character mapping must be in range(0x110000)"

-- What a table has for a character, which may be nothing at all.
def exchangedChar (host : Host) (table : Value) (c : Char) : Part (List Char) := do
  let found : Except Problem Value ← (host.itemOf table (.int c.toNat)).run
  match found with
  | .error (.raised (.key _)) | .error (.raised .place) => return [c]
  | .error problem => throw problem
  | .ok .nothing => return []
  | .ok (.text text _) => return text.toList
  | .ok value => match value.number? with
    | some n =>
      if n < 0 ∨ 0x10ffff < n then raise (.value beyondChars)
      return [Char.ofNat n.toNat]
    | none => refuse

def exchangeChars (host : Host) (chars : List Char) (table : Value) : Part Value := do
  charsOf (← chars.mapM (exchangedChar host table)).flatten

def ordinal (c : Char) : Value := .int c.toNat

-- The keys of a table for characters are their code points.
def tableKey : Value → Part Value
  | .text text _ => match text.toList with
    | [c] => return ordinal c
    | _ => raise (.value "string keys in translate table must be of length 1")
  | value => if value.number?.isSome then return value else refuse

def tableOfTexts (host : Host) (old new : List Char) (removed : List Char) : Part Value := do
  if old.length ≠ new.length then
    raise (.value "the first two maketrans arguments must have equal length")
  let entries ← host.putAll []
    ((old.zip new).map fun (a, b) => (ordinal a, ordinal b))
  newTable (← host.putAll entries (removed.map fun c => (ordinal c, .nothing)))

-- A table by which characters are exchanged.
def makeTable (host : Host) : List Value → Part Value
  | [.table identity] => do
    let entries ← (← tableAt identity).mapM fun (key, value) => do
      return (← tableKey key, value)
    newTable (← host.putAll [] entries)
  | [old, new] => do
    tableOfTexts host (← ofChars.read old) (← ofChars.read new) []
  | [old, new, removed] => do
    tableOfTexts host (← ofChars.read old) (← ofChars.read new) (← ofChars.read removed)
  | _ => refuse

-- How wide the widest character is, and what else a text keeps, decides how much room it takes.
def roomOfText (chars : List Char) : Nat :=
  let widest := chars.foldl (fun widest c => max widest c.toNat) 0
  if widest < 0x80 then 49 + chars.length
  else if widest < 0x100 then 73 + chars.length
  else if widest < 0x10000 then 74 + 2 * chars.length
  else 76 + 4 * chars.length

end SyntaxHandles.Dynamic.Telling
