import SyntaxHandles.Dynamic.Raised
import SyntaxHandles.Text.DecimalDigit

-- How values are to be written: with what they are padded and on which side, their signs, the
-- groups of their digits, and the kind of their text. What contradicts itself is refused in words.

namespace SyntaxHandles.Dynamic.Format

inductive Align
  | left
  | right
  | center
  -- Behind the sign.
  | inside
  deriving DecidableEq

def Align.ofChar? : Char → Option Align
  | '<' => some left
  | '>' => some right
  | '^' => some center
  | '=' => some inside
  | _ => none

structure Specification where
  fill : Char := ' '
  align : Align
  sign : Option Char := none
  hasNoNegativeZero : Bool := false
  isAlternate : Bool := false
  width : Option Nat := none
  -- What stands between groups of digits.
  separator : Option Char := none
  precision : Option Nat := none
  kind : Option Char := none

def refusal {α : Type} (words : String) : Except Raised α :=
  .error (.value words)

def mostSize : Nat := 0x7fffffffffffffff

-- A number in front of a text, if there is one.
def readNumber (chars : List Char) : Except Raised (Option Nat × List Char) :=
  let digits := chars.takeWhile fun c => (Text.digit? c).isSome
  let n := digits.foldl (fun n c => 10 * n + (Text.digit? c).getD 0) 0
  if digits.isEmpty then .ok (none, chars)
  else if mostSize < n then refusal "Too many decimal digits in format string"
  else .ok (some n, chars.drop digits.length)

-- A character named by itself, or by its code point where it might not be seen.
def charText (c : Char) : String :=
  if 32 < c.toNat && c.toNat < 128 then String.singleton c
  else "\\x" ++ String.ofList (Nat.toDigits 16 c.toNat)

def groupedKinds : List Char := ['d', 'e', 'f', 'g', 'E', 'G', '%', 'F']

def digitKinds : List Char := ['b', 'o', 'x', 'X']

-- Only numbers have groups of digits, and those in other than decimal digits only with low lines.
def checkSeparator (spec : Specification) : Except Raised Unit :=
  match spec.separator, spec.kind with
  | some separator, some kind =>
    if groupedKinds.contains kind || (digitKinds.contains kind && separator = '_') then .ok ()
    else
      let separator := String.singleton separator
      refusal ("Cannot specify '" ++ separator ++ "' with '" ++ charText kind ++ "'.")
  | _, _ => .ok ()

def bothSeparators : String := "Cannot specify both ',' and '_'."

def readFill (align : Align) : List Char → Specification × Bool × Bool × List Char
  | [] => (⟨' ', align, none, false, false, none, none, none, none⟩, false, false, [])
  | c :: rest =>
    let plain : Specification := { align }
    match rest.head?.bind Align.ofChar?, Align.ofChar? c with
    | some given, _ => ({ plain with fill := c, align := given }, true, true, rest.drop 1)
    | none, some given => ({ plain with align := given }, false, true, rest)
    | none, none => (plain, false, false, c :: rest)

-- Takes a character off the front if it is the expected one.
def takeChar (c : Char) (chars : List Char) : Bool × List Char :=
  if chars.head? = some c then (true, chars.drop 1) else (false, chars)

def readSeparator (chars : List Char) : Except Raised (Option Char × List Char) :=
  let (hasComma, rest) := takeChar ',' chars
  let (hasLine, rest) := takeChar '_' rest
  if (hasComma && hasLine) || (hasLine && rest.head? = some ',') then refusal bothSeparators
  else .ok (if hasComma then some ',' else if hasLine then some '_' else none, rest)

def readPrecision (chars : List Char) : Except Raised (Option Nat × List Char) := do
  let (hasPoint, rest) := takeChar '.' chars
  if !hasPoint then return (none, rest)
  let (precision, rest) ← readNumber rest
  if precision.isNone then refusal "Format specifier missing precision"
  return (precision, rest)

def Specification.read (what given : String) (align : Align) : Except Raised Specification := do
  let (spec, hasFill, hasAlign, rest) := readFill align given.toList
  let sign := rest.head?.filter fun c => c = ' ' || c = '+' || c = '-'
  let rest := if sign.isSome then rest.drop 1 else rest
  let (hasNoNegativeZero, rest) := takeChar 'z' rest
  let (isAlternate, rest) := takeChar '#' rest
  let (hasZero, rest) := if hasFill then (false, rest) else takeChar '0' rest
  let (width, rest) ← readNumber rest
  let (separator, rest) ← readSeparator rest
  let (precision, rest) ← readPrecision rest
  if 1 < rest.length then
    refusal ("Invalid format specifier '" ++ given ++ "' for object of type '" ++ what ++ "'")
  let spec : Specification :=
    { fill := if hasZero then '0' else spec.fill
      align := if hasZero && !hasAlign && align = .right then .inside else spec.align
      sign, hasNoNegativeZero, isAlternate, width, separator, precision, kind := rest.head? }
  checkSeparator spec
  return spec

def unknownKind {α : Type} (what : String) (kind : Char) : Except Raised α :=
  refusal ("Unknown format code '" ++ charText kind ++ "' for object of type '" ++ what ++ "'")

-- So many characters more, before and behind.
def padded (spec : Specification) (chars : List Char) : List Char :=
  let missing := spec.width.getD 0 - chars.length
  let left := match spec.align with
    | .left => 0
    | .center => missing / 2
    | .right | .inside => missing
  List.replicate left spec.fill ++ chars ++ List.replicate (missing - left) spec.fill

-- Texts are cut off at the precision.
def text (given s : String) : Except Raised String := do
  if given.isEmpty then return s
  let spec ← Specification.read "str" given .left
  match spec.kind with
  | none | some 's' => pure ()
  | some kind => unknownKind "str" kind
  match spec.sign with
  | some ' ' => refusal "Space not allowed in string format specifier"
  | some _ => refusal "Sign not allowed in string format specifier"
  | none => pure ()
  if spec.hasNoNegativeZero then
    refusal "Negative zero coercion (z) not allowed in string format specifier"
  if spec.isAlternate then
    refusal "Alternate form (#) not allowed in string format specifier"
  if spec.align = .inside then
    refusal "'=' alignment not allowed in string format specifier"
  let chars := match spec.precision with
    | some most => s.toList.take most
    | none => s.toList
  return String.ofList (padded spec chars)

end SyntaxHandles.Dynamic.Format
