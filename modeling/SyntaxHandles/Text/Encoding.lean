import SyntaxHandles.Text.Literal
import SyntaxHandles.Text.Utf8

-- Text as bytes in one of several encodings, and what becomes of what an encoding cannot express.

namespace SyntaxHandles.Text

inductive Encoding
  | utf8
  -- Starts with a mark, which is no part of the text.
  | markedUtf8
  | ascii
  | latin1
  -- Units of so many bytes, with a mark in front unless the order of the bytes is given.
  | units (size : Nat) (isBigEndian : Option Bool)

namespace Encoding

-- Other spellings of names differ in case and in what separates their words.
def plainName (name : String) : String :=
  String.ofList (name.toList.map fun c => if c.isAlphanum || c = '.' then c.toLower else '_')

def ofName? (name : String) : Option Encoding :=
  match plainName name with
  | "utf_8" | "utf8" | "u8" | "utf" | "cp65001" | "utf8_ucs2" | "utf8_ucs4" => some utf8
  | "utf_8_sig" => some markedUtf8
  | "ascii" | "us_ascii" | "us" | "646" | "cp367" | "ibm367" | "csascii" | "iso646_us"
  | "iso_646.irv_1991" | "iso_ir_6" | "ansi_x3.4_1968" | "ansi_x3_4_1968" | "ansi_x3.4_1986" =>
    some ascii
  | "latin_1" | "latin1" | "latin" | "l1" | "8859" | "iso_8859_1" | "iso8859_1" | "iso8859"
  | "cp819" | "ibm819" | "csisolatin1" | "iso_8859_1_1987" | "iso_ir_100" => some latin1
  | "utf_16" | "utf16" | "u16" => some (units 2 none)
  | "utf_16_le" | "utf_16le" | "unicodelittleunmarked" => some (units 2 (some false))
  | "utf_16_be" | "utf_16be" | "unicodebigunmarked" => some (units 2 (some true))
  | "utf_32" | "utf32" | "u32" => some (units 4 none)
  | "utf_32_le" | "utf_32le" => some (units 4 (some false))
  | "utf_32_be" | "utf_32be" => some (units 4 (some true))
  | _ => none

def unitBytes (size : Nat) (isBigEndian : Bool) (unit : Nat) : List UInt8 :=
  let bytes := (List.range size).map fun place => UInt8.ofNat (unit >>> (8 * place))
  if isBigEndian then bytes.reverse else bytes

-- A code point beyond sixteen bits takes two units of that size.
def unitsOf (size code : Nat) : List Nat :=
  if size = 2 && 0x10000 ≤ code then
    [0xd800 + (code - 0x10000) / 0x400, 0xdc00 + (code - 0x10000) % 0x400]
  else [code]

def mark : Nat := 0xfeff

def encodeChar? : Encoding → Char → Option (List UInt8)
  | utf8, c | markedUtf8, c => some (String.singleton c).toUTF8.toList
  | ascii, c => if c.toNat < 0x80 then some [UInt8.ofNat c.toNat] else none
  | latin1, c => if c.toNat < 0x100 then some [UInt8.ofNat c.toNat] else none
  | units size order, c =>
    some ((unitsOf size c.toNat).flatMap (unitBytes size (order.getD false)))

def encodedMark : Encoding → List UInt8
  | markedUtf8 => [0xef, 0xbb, 0xbf]
  | units size none => unitBytes size false mark
  | _ => []

def unitOf (isBigEndian : Bool) (bytes : List UInt8) : Nat :=
  (if isBigEndian then bytes else bytes.reverse).foldl (fun n byte => n * 0x100 + byte.toNat) 0

def isSurrogate (unit : Nat) : Bool := 0xd800 ≤ unit && unit < 0xe000

-- Pieces of units with their bytes. A unit that leads needs another that follows.
def piecesOfUnits (size : Nat) (isBigEndian : Bool) : (fuel : Nat) → List UInt8 → List Piece
  | 0, _ | _, [] => []
  | fuel + 1, bytes =>
    let unit := unitOf isBigEndian (bytes.take size)
    let rest := bytes.drop size
    let next := unitOf isBigEndian (rest.take size)
    if bytes.length < size then [.broken bytes]
    else if size = 4 && (0x10ffff < unit || isSurrogate unit) then
      .broken (bytes.take size) :: piecesOfUnits size isBigEndian fuel rest
    else if !isSurrogate unit then
      .char (Char.ofNat unit) :: piecesOfUnits size isBigEndian fuel rest
    else if unit < 0xdc00 && rest.length < size then [.broken bytes]
    else if unit < 0xdc00 && 0xdc00 ≤ next && isSurrogate next then
      .char (Char.ofNat (0x10000 + (unit - 0xd800) * 0x400 + (next - 0xdc00))) ::
        piecesOfUnits size isBigEndian fuel (rest.drop size)
    else .broken (bytes.take size) :: piecesOfUnits size isBigEndian fuel rest

def bytePiece (limit : Nat) (byte : UInt8) : Piece :=
  if byte.toNat < limit then .char (Char.ofNat byte.toNat) else .broken [byte]

def decodePieces (encoding : Encoding) (bytes : List UInt8) : List Piece :=
  match encoding with
  | utf8 => pieces bytes
  | markedUtf8 =>
    pieces (if [0xef, 0xbb, 0xbf].isPrefixOf bytes then bytes.drop 3 else bytes)
  | ascii => bytes.map (bytePiece 0x80)
  | latin1 => bytes.map (bytePiece 0x100)
  | units size (some isBigEndian) => piecesOfUnits size isBigEndian bytes.length bytes
  | units size none =>
    if bytes.take size = unitBytes size true mark then
      piecesOfUnits size true bytes.length (bytes.drop size)
    else if bytes.take size = unitBytes size false mark then
      piecesOfUnits size false bytes.length (bytes.drop size)
    else piecesOfUnits size false bytes.length bytes

end Encoding

-- What becomes of what cannot be expressed.
inductive Handling
  | strict
  | ignore
  | replace
  | backslash
  | reference

namespace Handling

def ofName? : String → Option Handling
  | "strict" => some strict
  | "ignore" => some ignore
  | "replace" => some replace
  | "backslashreplace" => some backslash
  | "xmlcharrefreplace" => some reference
  | _ => none

-- What stands for a character, or nothing where that is refused.
def forChar? : Handling → Char → Option (List Char)
  | strict, _ => none
  | ignore, _ => some []
  | replace, _ => some ['?']
  | backslash, c =>
    some (if c.toNat < 0x100 then '\\' :: 'x' :: paddedHex 2 c.toNat
      else if c.toNat < 0x10000 then '\\' :: 'u' :: paddedHex 4 c.toNat
      else '\\' :: 'U' :: paddedHex 8 c.toNat)
  | reference, c => some (['&', '#'] ++ Nat.toDigits 10 c.toNat ++ [';'])

-- What stands for bytes. References name characters only.
def forBytes? : Handling → List UInt8 → Option (List Char)
  | strict, _ | reference, _ => none
  | ignore, _ => some []
  | replace, _ => some [replacement]
  | backslash, bytes => some (bytes.flatMap fun byte => '\\' :: 'x' :: paddedHex 2 byte.toNat)

end Handling

end SyntaxHandles.Text
