-- The double that is nearest to a fraction. Halfway between two doubles it is the one whose last
-- bit is zero.

namespace SyntaxHandles.Decimal

-- A quotient as a whole number. Halves go to the even one.
def roundedQuotient (num den : Nat) : Nat :=
  let below := num / den
  let rest := 2 * (num % den)
  if den < rest || (rest = den && below % 2 = 1) then below + 1 else below

-- A fraction times a power of two, as numerator and denominator.
def shifted (num den : Nat) (power : Int) : Nat × Nat :=
  (num <<< power.toNat, den <<< (-power).toNat)

-- The bits of the double nearest to a fraction, without the sign. The mantissa has 53 bits where
-- the exponent allows for that, and one that is rounded up to 54 bits carries into the exponent.
def nearestBits (num den : Nat) : Nat :=
  if num = 0 then 0
  else
    let guess : Int := 52 - ((num.log2 : Int) - den.log2)
    let (top, bottom) := shifted num den guess
    let power := min (if top < bottom <<< 52 then guess + 1 else guess) 1074
    let (top, bottom) := shifted num den power
    min 0x7ff0000000000000 (((1074 - power).toNat <<< 52) + roundedQuotient top bottom)

def nearest (isNegative : Bool) (num den : Nat) : Float :=
  .ofBits (UInt64.ofNat (nearestBits num den + (if isNegative then 0x8000000000000000 else 0)))

def nearestToInt (n : Int) : Float :=
  nearest (n < 0) n.natAbs 1

end SyntaxHandles.Decimal
