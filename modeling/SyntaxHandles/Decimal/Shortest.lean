-- The fewest decimal digits that tell a binary floating-point number from its neighbours, and the
-- layouts in which they are written.

namespace SyntaxHandles.Decimal

-- The number `digits * 10 ^ exponent`.
structure Scaled where
  digits : Nat
  exponent : Int

-- A finite positive number `mantissa * 2 ^ exponent`. At the start of a binade the gap to the
-- number below is half the gap to the number above.
structure Binary where
  mantissa : Nat
  exponent : Int
  startsBinade : Bool

namespace Binary

def ofBits (bits : Nat) : Binary :=
  let fraction : Nat := bits % 0x10000000000000
  let power : Nat := bits / 0x10000000000000 % 0x800
  if power = 0 then ⟨fraction, -1074, false⟩
  else ⟨0x10000000000000 + fraction, (power : Int) - 1075, fraction = 0 && 1 < power⟩

-- A factor `base ^ power` as numerator and denominator.
private def factor (base : Nat) (power : Int) : Nat × Nat :=
  (base.pow power.toNat, base.pow (-power).toNat)

-- Quarters of the last place, so that the ends of the rounding interval are whole numbers.
private def low (x : Binary) : Nat := 4 * x.mantissa - (if x.startsBinade then 1 else 2)

private def high (x : Binary) : Nat := 4 * x.mantissa + 2

-- The exponent of the leading decimal digit.
private def magnitude (x : Binary) : Int :=
  let (num, den) := factor 2 x.exponent
  let whole := x.mantissa * num / den
  if 0 < whole then ((Nat.toDigits 10 whole).length : Int) - 1
  else
    -- Below one, so many zeros stand between the point and the first digit.
    let zeros := (List.range 400).find? fun n => den ≤ x.mantissa * num * Nat.pow 10 (n + 1)
    Int.negSucc (zeros.getD 0)

-- The nearest point that reads back, if any, on the grid of decimals with so many digits. A number
-- halfway between two such points goes to the even one.
private def onGrid (x : Binary) (digits : Nat) : Option Scaled :=
  let exponent := x.magnitude - digits + 1
  let (two, half) := factor 2 (x.exponent - 2)
  let (ten, tenth) := factor 10 exponent
  -- In units of the grid, the number and the ends of its interval are these over `unit`.
  let unit := half * ten
  let scale := two * tenth
  let value := 4 * x.mantissa * scale
  let below := value / unit
  let readsBack (point : Nat) : Bool :=
    if x.mantissa % 2 = 0 then x.low * scale ≤ point * unit && point * unit ≤ x.high * scale
    else x.low * scale < point * unit && point * unit < x.high * scale
  let toBelow := value - below * unit
  let toAbove := (below + 1) * unit - value
  let nearer :=
    if toBelow < toAbove || (toBelow = toAbove && below % 2 = 0) then below else below + 1
  let other := if nearer = below then below + 1 else below
  if readsBack nearer then some ⟨nearer, exponent⟩
  else if readsBack other then some ⟨other, exponent⟩
  else none

def shortest (x : Binary) : Scaled :=
  ((List.range 17).findSome? fun n => x.onGrid (n + 1)).getD ⟨x.mantissa, 0⟩

end Binary

-- How digits become text: which exponents of the leading digit are written positionally, and how
-- many digits an exponent has at least. A number is never written like an integer, and an exponent
-- always has its sign.
structure Layout where
  leastPositional : Int
  mostPositional : Int
  exponentDigits : Nat := 1

-- Digits without the zeros at their end, and the exponent of the leading one.
private def significant (x : Scaled) : List Char × Int :=
  let digits := Nat.toDigits 10 x.digits
  let kept := (digits.reverse.dropWhile (· == '0')).reverse
  (kept, x.exponent + digits.length - 1)

private def positional (digits : List Char) (leading : Int) : List Char :=
  if leading < 0 then
    ['0', '.'] ++ List.replicate (-leading - 1).toNat '0' ++ digits
  else
    let places := leading.toNat + 1
    let whole := digits.take places ++ List.replicate (places - digits.length) '0'
    let fraction := digits.drop places
    whole ++ ['.'] ++ (if fraction.isEmpty then ['0'] else fraction)

private def scientific (exponentDigits : Nat) (digits : List Char) (leading : Int) : List Char :=
  let head := digits.take 1
  let tail := digits.drop 1
  let mantissa := if tail.isEmpty then head else head ++ '.' :: tail
  let sign := if leading < 0 then '-' else '+'
  let exponent := Nat.toDigits 10 leading.natAbs
  mantissa ++ ['e', sign] ++ List.replicate (exponentDigits - exponent.length) '0' ++ exponent

def Layout.text (layout : Layout) (x : Float) : String :=
  let bits := x.toBits.toNat
  let sign := if 0x8000000000000000 ≤ bits then ['-'] else []
  let size := bits % 0x8000000000000000
  if size = 0 then String.ofList (sign ++ ['0', '.', '0'])
  else
    let (digits, leading) := significant (Binary.ofBits size).shortest
    let isPositional := layout.leastPositional ≤ leading && leading ≤ layout.mostPositional
    String.ofList (sign ++
      (if isPositional then positional digits leading
        else scientific layout.exponentDigits digits leading))

end SyntaxHandles.Decimal
