import SyntaxHandles.Decimal.Nearest
import SyntaxHandles.Dynamic.Raised
import SyntaxHandles.Text.Blank
import SyntaxHandles.Text.DecimalDigit

-- Numbers and bytes as hosts read them from texts. Space around a number does not count, and low
-- lines may stand between its digits.

namespace SyntaxHandles.Dynamic.Numeral

-- A text in ASCII, as far as it is about numbers. What can be no part of a number ends it.
def plainChars : List Char → List Char
  | [] => []
  | c :: rest =>
    if c.toNat < 127 then c :: plainChars rest
    else if Text.isBlank c then ' ' :: plainChars rest
    else match Text.digit? c with
      | some digit => Nat.digitChar digit :: plainChars rest
      | none => ['?']

def plain (text : String) : List Char :=
  let chars := text.toList
  if chars.all fun c => c.toNat < 128 then chars else plainChars chars

def trim (chars : List Char) : List Char :=
  ((chars.dropWhile Text.isSpace).reverse.dropWhile Text.isSpace).reverse

-- Whether there is a minus, and what follows the sign.
def unsigned : List Char → Bool × List Char
  | '-' :: rest => (true, rest)
  | '+' :: rest => (false, rest)
  | chars => (false, chars)

def digitValue? (base : Nat) (c : Char) : Option Nat :=
  let value? :=
    if c.isDigit then some (c.toNat - '0'.toNat)
    else if c.isLower then some (c.toNat - 'a'.toNat + 10)
    else if c.isUpper then some (c.toNat - 'A'.toNat + 10)
    else none
  value?.filter (· < base)

def valueOf (base : Nat) (digits : List Nat) : Nat :=
  digits.foldl (fun n digit => base * n + digit) 0

-- Halves the digits until there are few, so that many digits do not take long.
def valueByHalves (base : Nat) : (fuel : Nat) → List Nat → Nat
  | 0, digits => valueOf base digits
  | fuel + 1, digits =>
    if digits.length < 64 then valueOf base digits
    else
      let half := digits.length / 2
      valueByHalves base fuel (digits.take half) * base.pow (digits.length - half) +
        valueByHalves base fuel (digits.drop half)

-- Digits in front of a text, unless the low lines among them are misplaced, and what follows.
def digitsFrom (base : Nat) (isBehindDigit : Bool) : List Char → Option (List Nat × List Char)
  | [] => some ([], [])
  | c :: rest =>
    if c = '_' then
      if isBehindDigit && ((rest.head?.bind (digitValue? base)).isSome) then
        digitsFrom base false rest
      else none
    else match digitValue? base c with
      | some digit => (digitsFrom base true rest).map fun (digits, rest) => (digit :: digits, rest)
      | none => some ([], c :: rest)

def mostDigits : Nat := 4300

def tooManyDigits (count : Nat) : String :=
  "Exceeds the limit (" ++ toString mostDigits ++
    " digits) for integer string conversion: value has " ++ toString count ++
    " digits; use sys.set_int_max_str_digits() to increase the limit"

-- What tells the base of a number at its front.
def marked? (c : Char) : Option Nat :=
  match c.toLower with
  | 'x' => some 16
  | 'o' => some 8
  | 'b' => some 2
  | _ => none

-- The base that is asked for, or else that of the number itself, and whether it has to be zero.
def baseFor (base : Nat) (chars : List Char) : Nat × Bool :=
  if base ≠ 0 then (base, false)
  else match chars with
    | '0' :: c :: _ => match marked? c with
      | some base => (base, false)
      | none => (10, true)
    | ['0'] => (10, true)
    | _ => (10, false)

def unmarked (base : Nat) : List Char → List Char
  | '0' :: c :: rest =>
    if marked? c = some base then
      match rest with
      | '_' :: rest => rest
      | rest => rest
    else '0' :: c :: rest
  | chars => chars

-- There is no limit on digits that are groups of bits.
def isPowerOfTwo (base : Nat) : Bool :=
  [2, 4, 8, 16, 32].contains base

inductive Unread
  | invalid
  | tooMany (digits : Nat)

def readDigits (base : Nat) (chars : List Char) : Except Unread Int :=
  let (isNegative, rest) := unsigned (trim chars)
  let (base, isZero) := baseFor base rest
  match digitsFrom base false (unmarked base rest) with
  | none => .error .invalid
  | some (digits, rest) =>
    if mostDigits < digits.length && !isPowerOfTwo base then .error (.tooMany digits.length)
    else
      let n := valueByHalves base digits.length digits
      if digits.isEmpty || !rest.isEmpty || (isZero && n ≠ 0) then .error .invalid
      else .ok (if isNegative then -n else n)

-- What is quoted of a text that is no number is cut off at so many characters.
def mostQuoted : Nat := 200

def readIntFrom (base : Nat) (chars : List Char) (shown : String) : Except Raised Int :=
  (readDigits base chars).mapError fun
    | .invalid =>
      .value ("invalid literal for int() with base " ++ toString base ++ ": " ++
        String.ofList (shown.toList.take mostQuoted))
    | .tooMany digits => .value (tooManyDigits digits)

def readInt (base : Nat) (given : String) : Except Raised Int :=
  readIntFrom base (plain given) (Text.literal given)

def charsOf (bytes : List UInt8) : List Char :=
  bytes.map fun byte => Char.ofNat byte.toNat

def readIntBytes (base : Nat) (given : List UInt8) : Except Raised Int :=
  readIntFrom base (charsOf given) (Text.bytesLiteral (given.take mostQuoted))

-- Digits that may be left out.
def digitsOrNone? (chars : List Char) : Option (List Nat) :=
  match digitsFrom 10 false chars with
  | some (digits, []) => some digits
  | _ => none

-- The double nearest to digits times a power of ten. Far beyond all doubles there is no need to be
-- exact.
def scaled (digits : List Nat) (power : Int) : Float :=
  let digits := digits.dropWhile (· = 0)
  let leading := power + digits.length
  if digits.isEmpty || leading < -400 then 0
  else if 400 < leading then 1 / 0
  else
    let n := valueByHalves 10 digits.length digits
    Decimal.nearest false (n * Nat.pow 10 power.toNat) (Nat.pow 10 (-power).toNat)

-- A number without its sign.
def readSize? (chars : List Char) : Option Float := do
  let (number, power) := chars.span fun c => c ≠ 'e' && c ≠ 'E'
  let exponent : Int ← match power with
    | [] => some 0
    | _ :: power =>
      let (isNegative, rest) := unsigned power
      let digits ← digitsOrNone? rest
      if digits.isEmpty then none
      else
        let size : Int := valueByHalves 10 digits.length digits
        some (if isNegative then -size else size)
  let (whole, fraction) := number.span (· ≠ '.')
  let whole ← digitsOrNone? whole
  let fraction ← digitsOrNone? (fraction.drop 1)
  if whole.isEmpty && fraction.isEmpty then none
  else some (scaled (whole ++ fraction) (exponent - fraction.length))

-- A number with its sign, and nothing around it.
def readPlain? (chars : List Char) : Option Float :=
  let (isNegative, rest) := unsigned chars
  let size? := match String.ofList (rest.map Char.toLower) with
    | "inf" | "infinity" => some (1 / 0)
    | "nan" => some (0 / 0)
    | _ => readSize? rest
  size?.map fun size => if isNegative then -size else size

def readFloatFrom (chars : List Char) (shown : String) : Except Raised Float :=
  match readPlain? (trim chars) with
  | none => .error (.value ("could not convert string to float: " ++ shown))
  | some x => .ok x

def readFloat (given : String) : Except Raised Float :=
  readFloatFrom (plain given) (Text.literal given)

def readFloatBytes (given : List UInt8) : Except Raised Float :=
  readFloatFrom (charsOf given) (Text.bytesLiteral given)

-- Two digits for each byte, with space between the bytes. Fails with the place of what is no digit.
def readPairs (place : Nat) : List Char → Except Nat (List UInt8)
  | [] => .ok []
  | [c] =>
    if Text.isSpace c then .ok []
    else .error (if (digitValue? 16 c).isSome then place + 1 else place)
  | c :: d :: rest =>
    if Text.isSpace c then readPairs (place + 1) (d :: rest)
    else match digitValue? 16 c, digitValue? 16 d with
      | none, _ => .error place
      | _, none => .error (place + 1)
      | some high, some low => do
        return UInt8.ofNat (16 * high + low) :: (← readPairs (place + 2) rest)

-- A character beyond ASCII is refused before all others.
def readBytes (given : String) : Except Raised (List UInt8) :=
  let chars := given.toList
  let result : Except Nat (List UInt8) := match chars.findIdx? fun c => 0x80 ≤ c.toNat with
    | some place => .error place
    | none => readPairs 0 chars
  result.mapError fun place =>
    .value ("non-hexadecimal number found in fromhex() arg at position " ++ toString place)

end SyntaxHandles.Dynamic.Numeral
