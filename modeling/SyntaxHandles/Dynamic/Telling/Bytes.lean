import SyntaxHandles.Dynamic.Telling.Percent

-- What runs of bytes do when they are told to. As far as they are letters, they are those of ASCII.

namespace SyntaxHandles.Dynamic.Telling

open Sequence

def charOf (byte : UInt8) : Char :=
  Char.ofNat byte.toNat

def byteOf (c : Char) : UInt8 :=
  UInt8.ofNat c.toNat

-- A test of characters, for bytes. Beyond ASCII there are no letters.
def areBytes (isOne : Char → Bool) (bytes : List UInt8) : Bool :=
  areAll isOne (bytes.map charOf)

-- Whether each word starts with a capital letter and has no other.
def areTitled (inWord hasLetters : Bool) : List Char → Bool
  | [] => hasLetters
  | c :: rest =>
    if c.isUpper then !inWord && areTitled true true rest
    else if c.isLower then inWord && areTitled true true rest
    else areTitled false hasLetters rest

def byteTest? : String → Option (List UInt8 → Bool)
  | "isascii" => some fun bytes => bytes.all (· < 0x80)
  | "islower" => some fun bytes => hasOnly Char.isLower Char.isUpper (bytes.map charOf)
  | "isupper" => some fun bytes => hasOnly Char.isUpper Char.isLower (bytes.map charOf)
  | "istitle" => some fun bytes => areTitled false false (bytes.map charOf)
  | "isspace" => some (areBytes Text.isSpace)
  | "isdigit" => some (areBytes Char.isDigit)
  | "isalpha" => some (areBytes Char.isAlpha)
  | "isalnum" => some (areBytes Char.isAlphanum)
  | _ => none

def titledFrom (inWord : Bool) : List Char → List Char
  | [] => []
  | c :: rest => (if inWord then c.toLower else c.toUpper) :: titledFrom c.isAlpha rest

def swapped (c : Char) : Char :=
  if c.isUpper then c.toLower else c.toUpper

def byteMap? (name : String) : Option (List UInt8 → List UInt8) :=
  let mapped (f : List Char → List Char) : Option (List UInt8 → List UInt8) :=
    some fun bytes => (f (bytes.map charOf)).map byteOf
  match name with
  | "lower" => mapped (List.map Char.toLower)
  | "upper" => mapped (List.map Char.toUpper)
  | "swapcase" => mapped (List.map swapped)
  | "capitalize" => mapped fun chars =>
    (chars.take 1).map Char.toUpper ++ (chars.drop 1).map Char.toLower
  | "title" => mapped (titledFrom false)
  | _ => none

def bytesOf? : Value → Option (List UInt8)
  | .bytes bytes _ => some bytes
  | _ => none

def notByte : String := "byte must be in range(0, 256)"

-- A byte is named by its number.
def partOfBytes (value : Value) : Part (List UInt8) := do
  match bytesOf? value with
  | some bytes => return bytes
  | none =>
    let n ← orRefuse value.whole?
    if n < 0 ∨ 255 < n then raise (.value notByte)
    return [UInt8.ofNat n.toNat]

def ofBytes : Alphabet UInt8 where
  line bytes := .bytes bytes
  item := .byte
  read? := bytesOf?
  readPart := partOfBytes
  ofChar := byteOf
  isBlank byte := Text.isSpace (charOf byte)
  lines := lines (fun byte => byte = 10 || byte = 13) (· = 13) (· = 10)
  absent := "subsection not found"
  isEach := byteTest?
  mapped := byteMap?

def hexOf (bytes : List UInt8) : List Char :=
  bytes.flatMap fun byte => Text.paddedHex 2 byte.toNat

def notAscii : String := "sep must be ASCII."

def separatorOf (value : Value) : Part Char := do
  let chars ← match value with
    | .text text _ => pure text.toList
    | .bytes bytes _ => pure (bytes.map charOf)
    | value => do
      let items ← elementsOf value
      if items.length ≠ 1 then raise (.value "sep must be length 1.")
      refuse
  match chars with
  | [c] => if 127 < c.toNat then raise (.value notAscii) else return c
  | _ => raise (.value "sep must be length 1.")

-- Groups of so many, of which the last one may be shorter.
def groups {α : Type} (size : Nat) : (fuel : Nat) → List α → List (List α)
  | 0, _ | _, [] => []
  | fuel + 1, items => items.take size :: groups size fuel (items.drop size)

-- Digits in pairs, with a separator between groups that are counted from the end unless their size
-- is below zero.
def hexText (bytes : List UInt8) : List Value → Part Value
  | [] => charsOf (hexOf bytes)
  | separator :: rest => do
    if 1 < rest.length then refuse
    let size ← (rest.head?.map shortOf).getD (return 1)
    let separator ← separatorOf separator
    if size = 0 then return .chars (hexOf bytes)
    let pieces :=
      if size < 0 then groups size.natAbs bytes.length bytes
      else ((groups size.natAbs bytes.length bytes.reverse).map List.reverse).reverse
    charsOf ([separator].intercalate (pieces.map hexOf))

def exchangeBytes (bytes : List UInt8) : List Value → Part Value
  | table :: rest => do
    if 1 < rest.length then refuse
    let table ← match table with
      | .nothing => pure none
      | table => some <$> ofBytes.read table
    if let some table := table then
      if table.length ≠ 256 then raise (.value "translation table must be 256 characters long")
    let removed ← (rest.head?.map ofBytes.read).getD (return [])
    let kept := bytes.filter fun byte => !removed.contains byte
    return .bytes (match table with
      | some table => kept.map fun byte => table.getD byte.toNat byte
      | none => kept)
  | [] => refuse

-- A table by which bytes are exchanged. Of what stands there twice, the last counts.
def makeByteTable : List Value → Part Value
  | [old, new] => do
    let old ← ofBytes.read old
    let new ← ofBytes.read new
    if old.length ≠ new.length then
      raise (.value "maketrans arguments must have same length")
    let changes := (old.zip new).reverse
    return .bytes ((List.range 256).map fun n =>
      (changes.lookup (UInt8.ofNat n)).getD (UInt8.ofNat n))
  | _ => refuse

def bytesFromChars (chars : List Char) : Value :=
  .bytes (chars.map byteOf)

def tellBytes (host : Host) (name : String) (bytes : List UInt8) (values : List Value) :
    Part Value := do
  match tellLine? ofBytes name bytes values with
  | some part => part
  | none => match name, values with
    | "decode", values => decodeBytes bytes values
    | "hex", values => hexText bytes values
    | "translate", values => exchangeBytes bytes values
    | "__bytes__", [] => return .bytes bytes
    | "__mod__", [given] =>
      return bytesFromChars (← fillPercent host .bytes (bytes.map charOf) given)
    | "__rmod__", [.bytes mold _] =>
      return bytesFromChars (← fillPercent host .bytes (mold.map charOf) (.bytes bytes))
    | "__rmod__", [_] => return .undecided
    | _, _ => refuse

end SyntaxHandles.Dynamic.Telling
