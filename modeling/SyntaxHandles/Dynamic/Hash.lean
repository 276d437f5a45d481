import SyntaxHandles.Dynamic.Host

-- Numbers by which equal values are found. Numbers that are equal have the same, whatever their
-- kind.

namespace SyntaxHandles.Dynamic

namespace Value

-- Two to the power of sixty-one is one more than this.
def hashModulus : Nat := 0x1fffffffffffffff

-- Minus one stands for none.
def signedHash (isNegative : Bool) (size : Nat) : Int :=
  let hash : Int := if isNegative then -size else size
  if hash = -1 then -2 else hash

def hashOfInt (n : Int) : Int :=
  signedHash (n < 0) (n.natAbs % hashModulus)

-- A number that is given for a hash, which need not be smaller than a word.
def givenHash (n : Int) : Int :=
  if n = -1 then -2
  else if Int64.minValue.toInt ≤ n ∧ n ≤ Int64.maxValue.toInt then n
  else hashOfInt n

def hashOfInfinity : Nat := 314159

-- What is no number at all is told apart by chance, which is left at zero.
def hashOfFloat (x : Float) : Int :=
  if x.isNaN then 0
  else if x.isInf then signedHash (x < 0) hashOfInfinity
  else
    let magnitude := Decimal.Binary.ofFloat x
    signedHash (x < 0)
      ((magnitude.mantissa <<< (magnitude.exponent % 61).toNat) % hashModulus)

-- The second part counts much more often than the first.
def hashOfParts (x y : Float) : Int :=
  let hash := UInt64.ofInt (hashOfFloat x) + 1000003 * UInt64.ofInt (hashOfFloat y)
  if hash = 0xffffffffffffffff then -2 else hash.toInt64.toInt

-- The hashes of the items are mixed one by one, and their number at the end.
def mixed (lane hash : UInt64) : UInt64 :=
  let hash := hash + lane * 14029467366897019727
  ((hash <<< 31) ||| (hash >>> 33)) * 11400714785074694791

def hashSeed : UInt64 := 2870177450012600261

def hashOfItems (hashes : List Int) : Int :=
  let mixture := hashes.foldl (fun hash lane => mixed (UInt64.ofInt lane) hash) hashSeed
  let hash := mixture + (UInt64.ofNat hashes.length ^^^ hashSeed ^^^ 3527539)
  if hash = 0xffffffffffffffff then 1546275796 else hash.toInt64.toInt

def mergedHash (a b : Int) : Int :=
  let hash := (UInt64.ofInt a ^^^ UInt64.ofInt b).toInt64.toInt
  if hash = -1 then -2 else hash

end Value

namespace Host

variable (host : Host)

-- Only what cannot change has a hash. What the host decides by chance is left at zero.
def ownHash (value : Value) : Part Int :=
  match value with
  | .float x _ => return Value.hashOfFloat x
  | .complex x y _ => return Value.hashOfParts x y
  | .tuple items _ => do return Value.hashOfItems (← items.mapM host.hash)
  | .generic _ origin arguments _ => do
    return Value.mergedHash (← host.hash origin) (← host.hash (.tuple arguments))
  | .union members _ => do
    let _ ← members.mapM host.hash
    return 0
  | .list _ | .table _ | .set _ | .view .keys .. | .view .items .. | .mirror ..
  | .held _ _ (.cursor _) | .held _ _ (.type _) => refuse
  | value => return (value.number?.map Value.hashOfInt).getD 0

def hashOf (value : Value) : Part Int := do
  match ← overriding? value "__hash__" with
  | none => host.ownHash value
  | some callee =>
    match (← host.tellOverriding value callee []).number? with
    | some n => return Value.givenHash n
    | none => refuse

end Host

end SyntaxHandles.Dynamic
