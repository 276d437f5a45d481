import SyntaxHandles.Decimal.Rounded
import SyntaxHandles.Dynamic.Value

-- In which ways values are compared, and how values are ordered that have no parts.

namespace SyntaxHandles.Dynamic

inductive Comparison
  | less
  | lessOrEqual
  | equal
  | unequal
  | greater
  | greaterOrEqual
  deriving DecidableEq, Repr

namespace Comparison

def text : Comparison → String
  | less => "__lt__"
  | lessOrEqual => "__le__"
  | equal => "__eq__"
  | unequal => "__ne__"
  | greater => "__gt__"
  | greaterOrEqual => "__ge__"

def ofText? (text : String) : Option Comparison :=
  [less, lessOrEqual, equal, unequal, greater, greaterOrEqual].find? fun c => c.text = text

def isOrder : Comparison → Bool
  | equal | unequal => false
  | _ => true

-- The same question, asked from the other side.
def swapped : Comparison → Comparison
  | less => greater
  | lessOrEqual => greaterOrEqual
  | greater => less
  | greaterOrEqual => lessOrEqual
  | c => c

-- Values that are not ordered at all are unequal, and nothing else.
def holds (c : Comparison) : Option Ordering → Bool
  | none => c = unequal
  | some order => match c with
    | equal => order = .eq
    | unequal => order ≠ .eq
    | less => order = .lt
    | lessOrEqual => order ≠ .gt
    | greater => order = .gt
    | greaterOrEqual => order ≠ .lt

end Comparison

namespace Value

def compareFloats (x y : Float) : Option Ordering :=
  if x == y then some .eq else if x < y then some .lt else if y < x then some .gt else none

-- Exact, however large the number is.
def compareToInt (x : Float) (n : Int) : Option Ordering :=
  if x.isNaN then none
  else if x.isInf then some (if x < 0 then .lt else .gt)
  else
    let (num, den) := (Decimal.Binary.ofFloat x).fraction
    let num : Int := if x < 0 then -num else num
    some (compare num (n * den))

-- How two values are ordered that have no parts, if the first one knows values like the second.
-- Whole numbers know nothing of others.
def order? : Value → Value → Option (Option Ordering)
  | float x _, float y _ => some (compareFloats x y)
  | float x _, b => b.number?.map (compareToInt x)
  | text a _, text b _ => some (some (compare a b))
  | bytes a _, bytes b _ => some (some (compare (a.map (·.toNat)) (b.map (·.toNat))))
  | a, b => match a.number?, b.number? with
    | some m, some n => some (some (compare m n))
    | _, _ => none

-- What leaves the question to the other side, or says yes of itself.
def judgeIdentity (c : Comparison) (a b : Value) : Value :=
  if a.isIdentical b && c = .equal then .flag true else .undecided

end Value

end SyntaxHandles.Dynamic
