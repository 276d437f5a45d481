import SyntaxHandles.Dynamic.Format.Real
import SyntaxHandles.Dynamic.Format.Specification

-- Numbers as texts, with signs, groups of digits and padding.

namespace SyntaxHandles.Dynamic.Format

-- The parts of a number's text.
structure Parts where
  isNegative : Bool
  -- What tells the base of the digits.
  mark : List Char := []
  digits : List Char
  -- The point and what is behind it, or what is no number at all.
  rest : List Char := []

def signOf (spec : Specification) (isNegative : Bool) : List Char :=
  match spec.sign with
  | some '+' => if isNegative then ['-'] else ['+']
  | some ' ' => if isNegative then ['-'] else [' ']
  | _ => if isNegative then ['-'] else []

-- Digits from the right in groups, with zeros in front up to a width. Nothing starts with a
-- separator.
def groupedFrom (size : Nat) (separator : Char) : (fuel : Nat) → (width : Int) → List Char →
    List Char
  | 0, _, _ => []
  | fuel + 1, width, reversed =>
    let length := min size (max (max reversed.length width.toNat) 1)
    let group := reversed.take length
    let group := group ++ List.replicate (length - group.length) '0'
    let rest := reversed.drop length
    let width := width - length
    if rest.isEmpty && width ≤ 0 then group
    else group ++ separator :: groupedFrom size separator fuel (width - 1) rest

def grouped (spec : Specification) (width : Int) (digits : List Char) : List Char :=
  let size := if (spec.kind.map digitKinds.contains).getD false then 4 else 3
  match spec.separator with
  | none => List.replicate (width - digits.length).toNat '0' ++ digits
  | some separator =>
    (groupedFrom size separator (digits.length + width.toNat + 1) width digits.reverse).reverse

def assemble (spec : Specification) (parts : Parts) : String :=
  let sign := signOf spec parts.isNegative
  let beside := sign.length + parts.mark.length + parts.rest.length
  let least : Int :=
    if spec.fill = '0' && spec.align = .inside then (spec.width.getD 0 : Int) - beside else 0
  let digits := if parts.digits.isEmpty then [] else grouped spec least parts.digits
  let front := sign ++ parts.mark
  let back := digits ++ parts.rest
  let missing := spec.width.getD 0 - (front.length + back.length)
  let fill (n : Nat) := List.replicate n spec.fill
  String.ofList (match spec.align with
    | .left => front ++ back ++ fill missing
    | .center => fill (missing / 2) ++ front ++ back ++ fill (missing - missing / 2)
    | .inside => front ++ fill missing ++ back
    | .right => fill missing ++ front ++ back)

-- The digits of a number in front of what is none.
def split (isNegative : Bool) (chars : List Char) : Parts :=
  { isNegative, digits := chars.takeWhile Char.isDigit, rest := chars.dropWhile Char.isDigit }

def baseOf : Option Char → Nat
  | some 'b' => 2
  | some 'o' => 8
  | some 'x' | some 'X' => 16
  | _ => 10

-- What is not asked for in some way may have a digit behind the point.
def numberSpecified (spec : Specification) (hasFraction : Bool) (x : Float) : String :=
  let kind := spec.kind.getD 'r'
  let isPlain := spec.kind.isNone
  let style := match kind.toLower with
    | 'e' => Style.scientific
    | 'f' | '%' => .fixed
    | 'r' => if spec.precision.isSome then .general else .shortest
    | _ => .general
  let text := realText
    { style, precision := spec.precision.getD (if isPlain then 0 else 6)
      isCapital := kind.isUpper, isAlternate := spec.isAlternate, hasFraction
      hasNoNegativeZero := spec.hasNoNegativeZero }
    (if kind = '%' then x * 100 else x)
  let chars := text.toList ++ (if kind = '%' then ['%'] else [])
  let (isNegative, size) := match chars with
    | '-' :: size => (true, size)
    | size => (false, size)
  assemble spec (split isNegative size)

def realSpecified (spec : Specification) (x : Float) : String :=
  numberSpecified spec spec.kind.isNone x

def realKinds : List Char := ['e', 'E', 'f', 'F', 'g', 'G', 'n', '%']

def tooPrecise : String := "precision too big"

def checkPrecision (spec : Specification) : Except Raised Unit :=
  if 0x7fffffff < spec.precision.getD 0 then refusal tooPrecise else .ok ()

-- A floating-point number in the way that was asked for.
def real (given : String) (x : Float) : Except Raised String := do
  let spec ← Specification.read "float" given .right
  if !(spec.kind.all realKinds.contains) then unknownKind "float" (spec.kind.getD ' ')
  checkPrecision spec
  return realSpecified spec x

def complexKinds : List Char := ['e', 'E', 'f', 'F', 'g', 'G', 'n']

def noZeros : String := "Zero padding is not allowed in complex format specifier"

def noInside : String := "'=' alignment flag is not allowed in complex format specifier"

-- A number of two parts, as one text. If nothing is said about its kind, it is put in brackets, or
-- a first part that is nothing at all is left out.
def complex (given : String) (x y : Float) : Except Raised String := do
  let spec ← Specification.read "complex" given .right
  if !(spec.kind.all complexKinds.contains) then unknownKind "complex" (spec.kind.getD ' ')
  checkPrecision spec
  if spec.fill = '0' then refusal noZeros
  if spec.align = .inside then refusal noInside
  let bare := { spec with fill := ' ', width := none }
  let isAlone := spec.kind.isNone && x.toBits = 0
  let second := { bare with sign := if isAlone then spec.sign else some '+' }
  let chars := (if isAlone then [] else (numberSpecified bare false x).toList) ++
    (numberSpecified second false y).toList ++ ['j']
  let chars := if spec.kind.isNone && !isAlone then '(' :: chars ++ [')'] else chars
  return String.ofList (padded spec chars)

-- A character by its code point, which is no number.
def character (spec : Specification) (n : Int) : Except Raised String := do
  if spec.sign.isSome then refusal "Sign not allowed with integer format specifier 'c'"
  if spec.isAlternate then
    refusal "Alternate form (#) not allowed with integer format specifier 'c'"
  if n < 0 ∨ 0x10ffff < n then throw .overflow
  return assemble spec ⟨false, [], [], [Char.ofNat n.toNat]⟩

def wholeDigits (spec : Specification) (n : Int) : Except Raised String := do
  if spec.precision.isSome then refusal "Precision not allowed in integer format specifier"
  if spec.hasNoNegativeZero then
    refusal "Negative zero coercion (z) not allowed in integer format specifier"
  if spec.kind = some 'c' then character spec n
  else
    let digits := Nat.toDigits (baseOf spec.kind) n.natAbs
    let isCapital := spec.kind = some 'X'
    let mark := match spec.kind with
      | some kind => if spec.isAlternate && digitKinds.contains kind then ['0', kind] else []
      | none => []
    return assemble spec
      ⟨n < 0, mark, if isCapital then digits.map Char.toUpper else digits, []⟩

def wholeKinds : List Char := ['b', 'c', 'd', 'o', 'x', 'X', 'n']

-- A whole number in the way that was asked for. `toReal` is the nearest floating-point number.
def whole (what given : String) (n : Int) (toReal : Except Raised Float) :
    Except Raised String := do
  let spec ← Specification.read what given .right
  match spec.kind with
  | none => wholeDigits spec n
  | some kind =>
    if wholeKinds.contains kind then wholeDigits spec n
    else if realKinds.contains kind then
      let x ← toReal
      checkPrecision spec
      return realSpecified spec x
    else unknownKind what kind

end SyntaxHandles.Dynamic.Format
