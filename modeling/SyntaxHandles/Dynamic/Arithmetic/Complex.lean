import SyntaxHandles.Dynamic.Arithmetic.Real

-- Arithmetic of numbers of two parts.

namespace SyntaxHandles.Dynamic

structure Complex where
  re : Float
  im : Float

namespace Complex

def one : Complex := ⟨1, 0⟩

def sum (a b : Complex) : Complex :=
  ⟨a.re + b.re, a.im + b.im⟩

def difference (a b : Complex) : Complex :=
  ⟨a.re - b.re, a.im - b.im⟩

def product (a b : Complex) : Complex :=
  ⟨a.re * b.re - a.im * b.im, a.re * b.im + a.im * b.re⟩

-- Both parts of the divisor are divided by the larger one first.
def quotient (a b : Complex) : Except Raised Complex :=
  if b.im.abs ≤ b.re.abs then
    if b.re == 0 then .error .zeroDivision
    else
      let ratio := b.im / b.re
      let size := b.re + b.im * ratio
      .ok ⟨(a.re + a.im * ratio) / size, (a.im - a.re * ratio) / size⟩
  else if b.re.abs ≤ b.im.abs then
    let ratio := b.re / b.im
    let size := b.re * ratio + b.im
    .ok ⟨(a.re * ratio + a.im) / size, (a.im * ratio - a.re) / size⟩
  else .ok ⟨0 / 0, 0 / 0⟩

-- The root of a whole number, rounded down: nearer with each step from above.
def wholeRoot (n : Nat) : (fuel : Nat) → (guess : Nat) → Nat
  | 0, guess => guess
  | fuel + 1, guess =>
    let next := (guess + n / guess) / 2
    if next < guess then wholeRoot n fuel next else guess

-- The number nearest to the root of a sum of two squares. The squares are whole numbers, and the
-- root has more digits than can be told from what is left of it.
def distance (a : Complex) : Float :=
  if a.re.isInf || a.im.isInf then Real.infinity
  else if a.re.isNaN || a.im.isNaN then 0 / 0
  else if a.re == 0 then a.im.abs
  else if a.im == 0 then a.re.abs
  else
    let x := Decimal.Binary.ofFloat a.re
    let y := Decimal.Binary.ofFloat a.im
    let least := min x.exponent y.exponent - 64
    let m := x.mantissa <<< (x.exponent - least).toNat
    let n := y.mantissa <<< (y.exponent - least).toNat
    let sum := m * m + n * n
    let root := wholeRoot sum (sum.log2 + 1) (1 <<< (sum.log2 / 2 + 1))
    let rest := if root * root = sum then 0 else 1
    let (num, den) := Decimal.shifted (2 * root + rest) 2 least
    Decimal.nearest false num den

-- Numbers whose parts can be told may still be too large.
def size (a : Complex) : Except Raised Float :=
  let size := a.distance
  if size.isInf && !a.re.isInf && !a.im.isInf then .error .overflow else .ok size

-- A power by squares: `found` times the given power.
def powerBySquares (found : Complex) : (fuel : Nat) → Complex → (n : Nat) → Complex
  | 0, _, _ => found
  | fuel + 1, a, n =>
    if n = 0 then found
    else powerBySquares (if n % 2 = 1 then found.product a else found) fuel (a.product a) (n / 2)

-- A power by the size of the number and by its angle.
def powerByAngle (a b : Complex) : Except Raised Complex := do
  if b.re == 0 && b.im == 0 then return one
  if a.re == 0 && a.im == 0 then
    if b.im != 0 || b.re < 0 then throw .zeroDivision else return ⟨0, 0⟩
  let size := a.distance
  let length := size.pow b.re
  let angle := a.im.atan2 a.re
  let phase := angle * b.re
  let (length, phase) :=
    if b.im == 0 then (length, phase)
    else (length / (angle * b.im).exp, phase + b.im * size.log)
  -- No angle is as large as that.
  if phase.isInf then throw .zeroDivision
  return ⟨length * phase.cos, length * phase.sin⟩

-- Exponents that are small whole numbers are taken one factor at a time.
def power (a b : Complex) : Except Raised Complex := do
  let isSmall := b.im == 0 && Real.isWhole b.re && b.re.abs ≤ 100
  let result ←
    if isSmall then
      let power := powerBySquares one 8 a b.re.abs.toUInt64.toNat
      if 0 < b.re then pure power else one.quotient power
    else a.powerByAngle b
  if result.re.isInf || result.im.isInf then .error .overflow else return result

def malformed : String := "complex() arg is a malformed string"

-- The longest front of a text that is a number, and what follows it.
def readFront? (chars : List Char) : Option (Float × List Char) :=
  (List.range (chars.length + 1)).reverse.findSome? fun length =>
    (Numeral.readPlain? (chars.take length)).map (·, chars.drop length)

-- A sign alone stands for one with that sign.
def readUnit? : List Char → Option (Float × List Char)
  | '+' :: rest => some (1, rest)
  | '-' :: rest => some (-1, rest)
  | _ => none

def isTurned (c : Char) : Bool :=
  c = 'j' || c = 'J'

-- A second part is marked by a letter behind it.
def readMarked? (found : Option (Float × List Char)) : Option (Float × List Char) :=
  match found with
  | some (y, c :: rest) => if isTurned c then some (y, rest) else none
  | _ => none

def readParts? (chars : List Char) : Option (Complex × List Char) :=
  match readFront? chars with
  | some (x, c :: rest) =>
    if isTurned c then some (⟨0, x⟩, rest)
    else if c = '+' || c = '-' then
      let second := readFront? (c :: rest) <|> readUnit? (c :: rest)
      (readMarked? second).map fun (y, rest) => (⟨x, y⟩, rest)
    else some (⟨x, 0⟩, c :: rest)
  | some (x, []) => some (⟨x, 0⟩, [])
  | none =>
    (readMarked? (readUnit? chars <|> some (1, chars))).map fun (y, rest) => (⟨0, y⟩, rest)

-- Brackets may be put around a number.
def read (given : String) : Except Raised Complex :=
  let chars := Numeral.trim (Numeral.plain given)
  let (hasBracket, chars) := match chars with
    | '(' :: rest => (true, Numeral.trim rest)
    | chars => (false, chars)
  match readParts? chars with
  | none => .error (.value malformed)
  | some (number, rest) => match hasBracket, Numeral.trim rest with
    | true, [')'] | false, [] => .ok number
    | _, _ => .error (.value malformed)

end Complex

end SyntaxHandles.Dynamic
