import SyntaxHandles.Decimal.Nearest
import SyntaxHandles.Dynamic.Raised

-- Arithmetic of whole numbers. Quotients go down, and remainders have the sign of the divisor.

namespace SyntaxHandles.Dynamic.Whole

def refusal {α : Type} (words : String) : Except Raised α :=
  .error (.value words)

-- More bits than there is room for.
def mostBits : Nat := 0x400000000

def toFloat (n : Int) : Except Raised Float :=
  let x := Decimal.nearestToInt n
  if x.isInf then .error .overflow else .ok x

def quotient (m n : Int) : Except Raised Int :=
  if n = 0 then .error .zeroDivision else .ok (m.fdiv n)

def remainder (m n : Int) : Except Raised Int :=
  if n = 0 then .error .zeroDivision else .ok (m.fmod n)

-- A quotient as the nearest double.
def realQuotient (m n : Int) : Except Raised Float :=
  if n = 0 then .error .zeroDivision
  else
    let isNegative := decide (m < 0) != decide (n < 0)
    let x := Decimal.nearest isNegative m.natAbs n.natAbs
    if x.isInf then .error .overflow else .ok x

def noNegativeShift : String := "negative shift count"

def shiftedUp (m n : Int) : Except Raised Int :=
  if n < 0 then refusal noNegativeShift
  else if m = 0 then .ok 0
  else if mostBits < n then .error .memory
  else .ok (m * ((1 <<< n.toNat : Nat) : Int))

def shiftedDown (m n : Int) : Except Raised Int :=
  if n < 0 then refusal noNegativeShift
  else if (m.natAbs.log2 : Int) < n then .ok (if m < 0 then -1 else 0)
  else .ok (m >>> n.toNat)

-- A number in so many bits, where what is below zero counts from the end.
def toBits (width : Nat) (n : Int) : Nat :=
  if n < 0 then (1 <<< width) - n.natAbs else n.toNat

def ofBits (width bits : Nat) : Int :=
  if bits >>> (width - 1) = 0 then bits else (bits : Int) - (1 <<< width : Nat)

def bitwise (f : Nat → Nat → Nat) (m n : Int) : Int :=
  let width := max m.natAbs.log2 n.natAbs.log2 + 2
  ofBits width (f (toBits width m) (toBits width n))

def power (m : Int) (n : Nat) : Except Raised Int :=
  if 1 < m.natAbs && mostBits < m.natAbs.log2 * n then .error .memory
  else
    let size : Int := Nat.pow m.natAbs n
    .ok (if m < 0 && n % 2 = 1 then -size else size)

-- A power of `m` times `acc`, as the remainder of a division. Squares as often as there are bits.
def powerMod (modulus : Nat) : (fuel : Nat) → (acc m n : Nat) → Nat
  | 0, acc, _, _ => acc % modulus
  | fuel + 1, acc, m, n =>
    if n = 0 then acc % modulus
    else
      let acc := if n % 2 = 1 then acc * m % modulus else acc
      powerMod modulus fuel acc (m * m % modulus) (n / 2)

-- What gives one when it is multiplied and divided, if there is such a number.
def inverseFrom : (fuel : Nat) → (r s : Nat) → (x y : Int) → Option Int
  | 0, _, _, _, _ => none
  | fuel + 1, r, s, x, y =>
    if s = 0 then (if r = 1 then some x else none)
    else inverseFrom fuel s (r % s) y (x - (r / s : Nat) * y)

def inverse? (m : Int) (modulus : Nat) : Option Nat :=
  let m := (m.emod modulus).toNat
  -- The second remainder is at most half of the first.
  (inverseFrom (2 * modulus.log2 + 4) modulus m 0 1).map fun x => (x.emod modulus).toNat

def powerModulo (m n modulus : Int) : Except Raised Int := do
  if modulus = 0 then refusal "pow() 3rd argument cannot be 0"
  let size := modulus.natAbs
  if size = 1 then return 0
  let base ← if 0 ≤ n then pure (m.emod size).toNat else match inverse? m size with
    | some base => pure base
    | none => refusal "base is not invertible for the given modulus"
  let result := powerMod size (n.natAbs.log2 + 1) 1 base n.natAbs
  return if modulus < 0 ∧ result ≠ 0 then (result : Int) - size else result

-- How many bits are set in the size of a number.
def bitCount (n : Int) : Nat :=
  ((Nat.toDigits 2 n.natAbs).filter (· = '1')).length

def bitLength (n : Int) : Nat :=
  if n = 0 then 0 else n.natAbs.log2 + 1

-- A number rounded to a power of ten. Halves go to the even one.
def roundedTo (places : Nat) (n : Int) : Int :=
  if (Nat.toDigits 10 n.natAbs).length < places then 0
  else
    let unit := Nat.pow 10 places
    let size : Int := Decimal.roundedQuotient n.natAbs unit * unit
    if n < 0 then -size else size

-- So many bytes, the least first. A sign takes a bit.
def toBytes (length : Nat) (n : Int) : Except Raised (List UInt8) :=
  if n < 0 ∨ (8 * length : Int) < bitLength n then .error .overflow
  else .ok ((List.range length).map fun place => UInt8.ofNat (n.toNat >>> (8 * place)))

def ofBytes (bytes : List UInt8) : Nat :=
  bytes.foldl (fun n byte => n * 0x100 + byte.toNat) 0

end SyntaxHandles.Dynamic.Whole
