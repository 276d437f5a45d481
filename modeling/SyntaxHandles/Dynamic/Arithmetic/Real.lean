import SyntaxHandles.Decimal.Rounded
import SyntaxHandles.Dynamic.Numeral

-- Arithmetic of floating-point numbers, and what is exact about them.

namespace SyntaxHandles.Dynamic.Real

def infinity : Float := 1 / 0

def isNegative (x : Float) : Bool :=
  0x8000000000000000 ≤ x.toBits.toNat

def isFinite (x : Float) : Bool :=
  !x.isNaN && !x.isInf

-- The size of one number with the sign of another.
def withSignOf (x y : Float) : Float :=
  if isNegative x == isNegative y then x else -x

-- What is left of a division that goes toward zero. It is exact.
def rest (x y : Float) : Float :=
  if x.isNaN || y.isNaN || x.isInf || y == 0 then 0 / 0
  else if y.isInf then x
  else
    let a := Decimal.Binary.ofFloat x
    let b := Decimal.Binary.ofFloat y
    let least := min a.exponent b.exponent
    let size := (a.mantissa <<< (a.exponent - least).toNat) %
      (b.mantissa <<< (b.exponent - least).toNat)
    let (num, den) := Decimal.shifted size 1 least
    Decimal.nearest (isNegative x) num den

-- A quotient that goes down, and the remainder, which has the sign of the divisor.
def divided (x y : Float) : Float × Float :=
  let left := rest x y
  let quotient := (x - left) / y
  let isAcross := left != 0 && decide (y < 0) != decide (left < 0)
  let remainder :=
    if left == 0 then withSignOf 0 y else if isAcross then left + y else left
  let quotient := if isAcross then quotient - 1 else quotient
  let below := quotient.floor
  let floor :=
    if quotient == 0 then withSignOf 0 (x / y)
    else if 0.5 < quotient - below then below + 1
    else below
  (floor, remainder)

def notWhole : String := "cannot convert float NaN to integer"

-- The digits behind the point are cut off.
def whole (x : Float) : Except Raised Int :=
  if x.isNaN then .error (.value notWhole)
  else if x.isInf then .error .overflow
  else
    let (num, den) := (Decimal.Binary.ofFloat x).fraction
    let size : Int := (num / den : Nat)
    .ok (if isNegative x then -size else size)

def isWhole (x : Float) : Bool :=
  isFinite x && (let (num, den) := (Decimal.Binary.ofFloat x).fraction; num % den = 0)

def isOdd (x : Float) : Bool :=
  isWhole x && (let (num, den) := (Decimal.Binary.ofFloat x).fraction; num / den % 2 = 1)

-- The nearest whole number. Halves go to the even one.
def nearestWhole (x : Float) : Except Raised Int := do
  let _ ← whole x
  let (num, den) := (Decimal.Binary.ofFloat x).fraction
  let size : Int := Decimal.roundedQuotient num den
  return if isNegative x then -size else size

def below (x : Float) : Except Raised Int := do
  let n ← whole x
  return if isNegative x && !isWhole x then n - 1 else n

def above (x : Float) : Except Raised Int := do
  let n ← whole x
  return if !isNegative x && !isWhole x then n + 1 else n

-- Beyond these many places, rounding changes nothing or leaves nothing.
def rounded (x : Float) (places : Int) : Except Raised Float :=
  if !isFinite x || 323 < places then .ok x
  else if places < -308 then .ok (0 * x)
  else
    let result := Decimal.roundedAt x places
    if result.isInf then .error .overflow else .ok result

-- A power, or none where it would be no real number.
def power? (x y : Float) : Except Raised (Option Float) :=
  let some' (x : Float) : Except Raised (Option Float) := .ok (some x)
  if y == 0 then some' 1
  else if x.isNaN then some' x
  else if y.isNaN then some' (if x == 1 then 1 else y)
  else if y.isInf then
    if x.abs == 1 then some' 1
    else some' (if decide (0 < y) == decide (1 < x.abs) then y.abs else 0)
  else if x.isInf then
    if 0 < y then some' (if isOdd y then x else x.abs)
    else some' (if isOdd y then withSignOf 0 x else 0)
  else if x == 0 then
    if y < 0 then .error .zeroDivision else some' (if isOdd y then x else 0)
  else if x < 0 && !isWhole y then .ok none
  else
    let size := if x.abs == 1 then 1 else x.abs.pow y
    if size.isInf then .error .overflow
    else some' (if x < 0 && isOdd y then -size else size)

-- A fraction in lowest terms.
def ratio (x : Float) : Except Raised (Int × Int) :=
  if x.isNaN then .error (.value "cannot convert NaN to integer ratio")
  else if x.isInf then .error .overflow
  else
    let (num, den) := (Decimal.Binary.ofFloat x).fraction
    let common := num.gcd den
    let num : Int := (num / common : Nat)
    .ok (if isNegative x then -num else num, (den / common : Nat))

-- The bits of a number in groups of four, with the exponent as a power of two.
def hexText (x : Float) : String :=
  let sign := if isNegative x && !x.isNaN then "-" else ""
  if x.isNaN then "nan"
  else if x.isInf then sign ++ "inf"
  else
    let bits := x.toBits.toNat % 0x8000000000000000
    let power := bits / 0x10000000000000
    let digits := Text.paddedHex 13 (bits % 0x10000000000000)
    if bits = 0 then sign ++ "0x0.0p+0"
    else
      let exponent : Int := (max power 1 : Nat) - 1023
      sign ++ "0x" ++ (if power = 0 then "0" else "1") ++ "." ++ String.ofList digits ++ "p" ++
        (if exponent < 0 then "-" else "+") ++ toString exponent.natAbs

def notHexadecimal : String := "invalid hexadecimal floating-point string"

def hexDigits (chars : List Char) : List Nat × List Char :=
  let digits := chars.takeWhile fun c => (Numeral.digitValue? 16 c).isSome
  (digits.filterMap (Numeral.digitValue? 16), chars.drop digits.length)

-- The exponent behind a number in groups of four bits, and what follows it.
def readPower : List Char → Option (Int × List Char)
  | c :: rest =>
    if c = 'p' || c = 'P' then
      let (isNegative, rest) := Numeral.unsigned rest
      let digits := rest.takeWhile Char.isDigit
      let size : Int := Numeral.valueOf 10 (digits.filterMap (Numeral.digitValue? 10))
      if digits.isEmpty then none
      else some (if isNegative then -size else size, rest.drop digits.length)
    else some (0, c :: rest)
  | [] => some (0, [])

-- A number without its sign in groups of four bits.
def readHexSize (chars : List Char) : Except Raised Float :=
  let chars := match chars with
    | '0' :: c :: rest => if c = 'x' || c = 'X' then rest else '0' :: c :: rest
    | chars => chars
  let (front, rest) := hexDigits chars
  let (back, rest) := match rest with
    | '.' :: rest => hexDigits rest
    | rest => ([], rest)
  match readPower rest with
  | some (power, []) =>
    let digits := (front ++ back).dropWhile (· = 0)
    let leading := 4 * ((digits.length : Int) - back.length) + power
    if (front ++ back).isEmpty then .error (.value notHexadecimal)
    else if digits.isEmpty || leading < -1100 then .ok 0
    else if 1100 < leading then .error .overflow
    else
      let (num, den) := Decimal.shifted (Numeral.valueByHalves 16 digits.length digits) 1
        (power - 4 * back.length)
      let x := Decimal.nearest false num den
      if x.isInf then .error .overflow else .ok x
  | _ => .error (.value notHexadecimal)

def readHex (given : String) : Except Raised Float := do
  let (isNegative, chars) := Numeral.unsigned (Numeral.trim given.toList)
  let size ← match String.ofList (chars.map Char.toLower) with
    | "inf" | "infinity" => pure infinity
    | "nan" => pure (0 / 0)
    | _ => readHexSize chars
  return if isNegative then -size else size

end SyntaxHandles.Dynamic.Real
