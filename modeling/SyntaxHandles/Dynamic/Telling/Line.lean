import SyntaxHandles.Dynamic.Host
import SyntaxHandles.Sequence.Find
import SyntaxHandles.Sequence.Pad
import SyntaxHandles.Sequence.Trim

-- What texts and runs of bytes have in common when they are told to do something: both are lines of
-- signs of one kind.

namespace SyntaxHandles.Dynamic.Telling

open Sequence

-- What is to be known of the signs of a line.
structure Alphabet (α : Type) where
  -- The value that a line is.
  line : List α → Value
  item : α → Value
  -- The line that a value is.
  read? : Value → Option (List α)
  -- What is looked for, which need not be a line itself.
  readPart : Value → Part (List α)
  ofChar : Char → α
  isBlank : α → Bool
  -- Lines with what ends them.
  lines : List α → List (List α × List α)
  -- What is said of a part that is not there.
  absent : String
  isEach : String → Option (List α → Bool)
  mapped : String → Option (List α → List α)

section

variable {α : Type} [BEq α] (alphabet : Alphabet α)

namespace Alphabet

def read (value : Value) : Part (List α) :=
  orRefuse (alphabet.read? value)

def isSign (x : α) : Bool :=
  x == alphabet.ofChar '+' || x == alphabet.ofChar '-'

def values (lines : List (List α)) : List Value :=
  lines.map alphabet.line

end Alphabet

def noSeparator : String := "empty separator"

-- So many, where less than none is as many as there are.
def limitOf (most : Nat) : Option Value → Part Nat
  | none => return most
  | some value => do
    let n ← countOf value
    return if n < 0 then most else min n.toNat most

def splitLine (isFromEnd : Bool) (whole : List α) (values : List Value) : Part Value := do
  let most := whole.length + 1
  match values with
  | [] | [.nothing] | [.nothing, _] =>
    let limit ← limitOf most values[1]?
    let words := (if isFromEnd then wordsFromEnd else words) alphabet.isBlank limit whole
    newList (alphabet.values words)
  | [separator] | [separator, _] =>
    let limit ← limitOf most values[1]?
    let separator ← alphabet.read separator
    if separator.isEmpty then raise (.value noSeparator)
    newList (alphabet.values
      ((if isFromEnd then piecesFromEnd else pieces) separator whole limit))
  | _ => refuse

def joinLines (separator : List α) (values : List Value) : Part Value := do
  let items ← values.mapM alphabet.read
  return alphabet.line (separator.intercalate items)

def replaceIn (whole : List α) : List Value → Part Value
  | old :: new :: rest => do
    if 1 < rest.length then refuse
    let old ← alphabet.read old
    let new ← alphabet.read new
    let limit ← limitOf (whole.length + 1) rest.head?
    return alphabet.line (replace old new whole limit)
  | _ => refuse

def padded (pad : Int → α → List α → List α) (whole : List α) : List Value → Part Value
  | width :: rest => do
    let width ← countOf width
    let fill ← match rest with
      | [] => pure (alphabet.ofChar ' ')
      | [value] => match alphabet.read? value with
        | some [fill] => pure fill
        | _ => refuse
      | _ => refuse
    checkRoom width
    return alphabet.line (pad width fill whole)
  | _ => refuse

-- Where a part occurs between two places.
def placeIn? (isFromEnd : Bool) (whole : List α) : List Value → Part (Option Nat)
  | part :: places => do
    if 2 < places.length then refuse
    let stretch ← stretchOf whole.length places
    let part ← alphabet.readPart part
    if stretch.stop - stretch.start < part.length then return none
    let found := (if isFromEnd then findLast? else find?) part (stretch.cut whole)
    return found.map (· + stretch.start)
  | [] => refuse

def findIn (isFromEnd : Bool) (whole : List α) (values : List Value) : Part Value := do
  return .int (((← placeIn? alphabet isFromEnd whole values).map Int.ofNat).getD (-1))

def indexIn (isFromEnd : Bool) (whole : List α) (values : List Value) : Part Value := do
  match ← placeIn? alphabet isFromEnd whole values with
  | some place => return .int place
  | none => raise (.value alphabet.absent)

def countIn (whole : List α) : List Value → Part Value
  | part :: places => do
    if 2 < places.length then refuse
    let stretch ← stretchOf whole.length places
    let part ← alphabet.readPart part
    if stretch.stop - stretch.start < part.length then return .int 0
    return .int (count part (stretch.cut whole))
  | [] => refuse

-- Whether there is a part at one end of what is between two places.
def isAtEnd (isFromEnd : Bool) (whole : List α) (stretch : Stretch) (part : List α) : Bool :=
  let inside := stretch.cut whole
  (stretch.start : Int) + part.length ≤ stretch.stop &&
    (if isFromEnd then part.isSuffixOf inside else part.isPrefixOf inside)

-- One of several parts will do.
def anyAtEnd (isFromEnd : Bool) (whole : List α) (stretch : Stretch) : List Value → Part Bool
  | [] => return false
  | part :: parts => do
    if isAtEnd isFromEnd whole stretch (← alphabet.read part) then return true
    else anyAtEnd isFromEnd whole stretch parts

def hasEnd (isFromEnd : Bool) (whole : List α) : List Value → Part Value
  | part :: places => do
    if 2 < places.length then refuse
    let stretch ← stretchOf whole.length places
    match part with
    | .tuple parts _ => return .flag (← anyAtEnd alphabet isFromEnd whole stretch parts)
    | part =>
      return .flag (isAtEnd isFromEnd whole stretch (← alphabet.read part))
  | [] => refuse

-- What is before a part, the part, and what is behind it. Where it is not, all else is empty.
def partitionAt (isFromEnd : Bool) (whole : List α) (part : Value) : Part Value := do
  let part ← alphabet.read part
  if part.isEmpty then raise (.value noSeparator)
  let line := alphabet.line
  return .tuple (match (if isFromEnd then cutLast? else cut?) part whole with
    | some (front, back) => [line front, line part, line back]
    | none =>
      if isFromEnd then [line [], line [], line whole] else [line whole, line [], line []])

def trimmed (trim : (α → Bool) → List α → List α) (whole : List α) : List Value → Part Value
  | [] | [.nothing] => return alphabet.line (trim alphabet.isBlank whole)
  | [value] => do
    let loose ← alphabet.read value
    return alphabet.line (trim loose.contains whole)
  | _ => refuse

def linesOf (whole : List α) (values : List Value) : Part Value := do
  if 1 < values.length then refuse
  let keepsEnds ← (values.head?.map shortOf).getD (return 0)
  newList ((alphabet.lines whole).map fun (line, ending) =>
    alphabet.line (if keepsEnds = 0 then line else line ++ ending))

def withTabs (whole : List α) (values : List Value) : Part Value := do
  if 1 < values.length then refuse
  let size ← (values.head?.map shortOf).getD (return 8)
  let isTab (x : α) := x == alphabet.ofChar '\t'
  let isLineEnd (x : α) := x == alphabet.ofChar '\n' || x == alphabet.ofChar '\r'
  return alphabet.line (expandTabs size isTab isLineEnd (alphabet.ofChar ' ') 0 whole)

def repeatedLine (whole : List α) (times : Value) : Part Value := do
  let times ← countOf times
  if 0 < times ∧ mostPlace < times * whole.length then raise .overflow
  checkRoom (times * whole.length)
  return alphabet.line (repeated (if whole.isEmpty then 0 else times) whole)

-- What lines of both kinds do, unless it is something of which only one kind knows.
def tellLine? (name : String) (whole : List α) (values : List Value) : Option (Part Value) :=
  let line := alphabet.line
  match alphabet.isEach name, alphabet.mapped name, values with
  | some isEach, _, [] => some (return .flag (isEach whole))
  | none, some map, [] => some (return line (map whole))
  | _, _, _ => match name, values with
    | "split", values => some (splitLine alphabet false whole values)
    | "rsplit", values => some (splitLine alphabet true whole values)
    | "join", [parts] => some (do joinLines alphabet whole (← elementsOf parts))
    | "replace", values => some (replaceIn alphabet whole values)
    | "center", values => some (padded alphabet padBoth whole values)
    | "ljust", values => some (padded alphabet padEnd whole values)
    | "rjust", values => some (padded alphabet padStart whole values)
    | "zfill", [width] => some do
      let width ← countOf width
      checkRoom width
      return line (padDigits width alphabet.isSign (alphabet.ofChar '0') whole)
    | "find", values => some (findIn alphabet false whole values)
    | "rfind", values => some (findIn alphabet true whole values)
    | "index", values => some (indexIn alphabet false whole values)
    | "rindex", values => some (indexIn alphabet true whole values)
    | "count", values => some (countIn alphabet whole values)
    | "startswith", values => some (hasEnd alphabet false whole values)
    | "endswith", values => some (hasEnd alphabet true whole values)
    | "partition", [part] => some (partitionAt alphabet false whole part)
    | "rpartition", [part] => some (partitionAt alphabet true whole part)
    | "strip", values => some (trimmed alphabet trim whole values)
    | "lstrip", values => some (trimmed alphabet trimStart whole values)
    | "rstrip", values => some (trimmed alphabet trimEnd whole values)
    | "splitlines", values => some (linesOf alphabet whole values)
    | "expandtabs", values => some (withTabs alphabet whole values)
    | "removeprefix", [part] => some do
      let part ← alphabet.read part
      return line (if part.isPrefixOf whole then whole.drop part.length else whole)
    | "removesuffix", [part] => some do
      let part ← alphabet.read part
      return line (if part.isSuffixOf whole then whole.take (whole.length - part.length) else whole)
    | "__len__", [] => some (return .int whole.length)
    | "__getitem__", [place] => some (itemAt (whole.map alphabet.item) place)
    | "__add__", [other] => some do return line (whole ++ (← alphabet.read other))
    | "__mul__", [times] | "__rmul__", [times] => some (repeatedLine alphabet whole times)
    | "__contains__", [part] => some do
      return .flag (occurs (← alphabet.readPart part) whole)
    | "__getnewargs__", [] => some (return .tuple [line whole])
    | _, _ => none

end

end SyntaxHandles.Dynamic.Telling
