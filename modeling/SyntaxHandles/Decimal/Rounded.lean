import SyntaxHandles.Decimal.Nearest
import SyntaxHandles.Decimal.Shortest

-- Binary floating-point numbers in a given number of decimal digits. What is halfway between two
-- decimals goes to the even one.

namespace SyntaxHandles.Decimal

namespace Binary

-- The magnitude of a double that is finite.
def ofFloat (x : Float) : Binary :=
  ofBits (x.toBits.toNat % 0x8000000000000000)

def fraction (x : Binary) : Nat × Nat :=
  shifted x.mantissa 1 x.exponent

end Binary

-- Digits with the place of the point among them, counted from the left. The digits do not end in
-- zeros, and zero itself has none.
structure Placed where
  digits : List Char
  point : Int

namespace Placed

def zero : Placed := ⟨[], 0⟩

def ofScaled (x : Scaled) : Placed :=
  if x.digits = 0 then zero
  else
    let digits := Nat.toDigits 10 x.digits
    ⟨(digits.reverse.dropWhile (· == '0')).reverse, x.exponent + digits.length⟩

end Placed

-- The fewest digits that read back.
def shortestDigits (x : Float) : Placed :=
  let size := Binary.ofFloat x
  if size.mantissa = 0 then .zero else .ofScaled size.shortest

-- So many digits behind the point.
def fixedDigits (x : Float) (places : Nat) : Placed :=
  let (num, den) := (Binary.ofFloat x).fraction
  .ofScaled ⟨roundedQuotient (num * Nat.pow 10 places) den, -places⟩

-- Every double but zero times ten to this power is above one.
def mostPlaces : Nat := 324

-- The exponent of the leading digit of a fraction.
def leadingExponent (num den : Nat) : Int :=
  ((Nat.toDigits 10 (num * Nat.pow 10 mostPlaces / den)).length : Int) - 1 - mostPlaces

-- So many digits in all.
def significantDigits (x : Float) (count : Nat) : Placed :=
  let (num, den) := (Binary.ofFloat x).fraction
  if num = 0 then .zero
  else
    let places := (count : Int) - 1 - leadingExponent num den
    let scaled :=
      roundedQuotient (num * Nat.pow 10 places.toNat) (den * Nat.pow 10 (-places).toNat)
    .ofScaled ⟨scaled, -places⟩

-- A double rounded to so many digits behind the point, or to tens where the number is negative.
def roundedAt (x : Float) (places : Int) : Float :=
  let (num, den) := (Binary.ofFloat x).fraction
  let up := Nat.pow 10 places.toNat
  let down := Nat.pow 10 (-places).toNat
  nearest (0x8000000000000000 ≤ x.toBits.toNat) (roundedQuotient (num * up) (den * down) * down) up

end SyntaxHandles.Decimal
