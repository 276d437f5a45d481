import SyntaxHandles.Dynamic.Arithmetic.Complex
import SyntaxHandles.Dynamic.Arithmetic.Whole
import SyntaxHandles.Dynamic.Format.Number
import SyntaxHandles.Dynamic.Host

-- What numbers do when they are told to. Whole numbers know nothing of others, and leave a question
-- about them to the other side.

namespace SyntaxHandles.Dynamic.Telling

-- Operations on two numbers. Each has a name for the number on its left, and one for that on its
-- right.
inductive Operator
  | add
  | subtract
  | multiply
  | remainder
  | quotientAndRemainder
  | quotient
  | realQuotient
  | power
  | shiftUp
  | shiftDown
  | both
  | either
  | oneOf
  deriving DecidableEq

namespace Operator

def name : Operator → String
  | add => "add"
  | subtract => "sub"
  | multiply => "mul"
  | remainder => "mod"
  | quotientAndRemainder => "divmod"
  | quotient => "floordiv"
  | realQuotient => "truediv"
  | power => "pow"
  | shiftUp => "lshift"
  | shiftDown => "rshift"
  | both => "and"
  | either => "or"
  | oneOf => "xor"

def all : List Operator :=
  [add, subtract, multiply, remainder, quotientAndRemainder, quotient, realQuotient, power, shiftUp,
    shiftDown, both, either, oneOf]

-- The operator of a name, and whether the number that is told stands on its right.
def ofName? (name : String) : Option (Operator × Bool) :=
  all.findSome? fun operator =>
    if name = "__" ++ operator.name ++ "__" then some (operator, false)
    else if name = "__r" ++ operator.name ++ "__" then some (operator, true)
    else none

end Operator

def realPower (x y : Float) : Part Value := do
  match ← orRaise (Real.power? x y) with
  | some power => return .float power
  | none =>
    let power ← orRaise (Complex.power ⟨x, 0⟩ ⟨y, 0⟩)
    return .complex power.re power.im

-- Powers below zero are no whole numbers.
def wholePower (m n : Int) : Part Value := do
  if n < 0 then realPower (← orRaise (Whole.toFloat m)) (← orRaise (Whole.toFloat n))
  else return .int (← orRaise (Whole.power m n.toNat))

def wholeOperation (operator : Operator) (m n : Int) : Part Value := do
  let int (result : Except Raised Int) : Part Value := do return .int (← orRaise result)
  match operator with
  | .add => return .int (m + n)
  | .subtract => return .int (m - n)
  | .multiply => return .int (m * n)
  | .remainder => int (Whole.remainder m n)
  | .quotientAndRemainder =>
    let quotient ← int (Whole.quotient m n)
    return .tuple [quotient, ← int (Whole.remainder m n)]
  | .quotient => int (Whole.quotient m n)
  | .realQuotient => return .float (← orRaise (Whole.realQuotient m n))
  | .power => wholePower m n
  | .shiftUp => int (Whole.shiftedUp m n)
  | .shiftDown => int (Whole.shiftedDown m n)
  | .both => return .int (Whole.bitwise (· &&& ·) m n)
  | .either => return .int (Whole.bitwise (· ||| ·) m n)
  | .oneOf => return .int (Whole.bitwise (· ^^^ ·) m n)

def realOperation (operator : Operator) (x y : Float) : Part Value := do
  let divided (f : Float × Float → Value) : Part Value :=
    if y == 0 then raise .zeroDivision else return f (Real.divided x y)
  match operator with
  | .add => return .float (x + y)
  | .subtract => return .float (x - y)
  | .multiply => return .float (x * y)
  | .remainder => divided fun result => .float result.2
  | .quotientAndRemainder => divided fun result => .tuple [.float result.1, .float result.2]
  | .quotient => divided fun result => .float result.1
  | .realQuotient => if y == 0 then raise .zeroDivision else return .float (x / y)
  | .power => realPower x y
  | _ => return .undecided

-- A third number of a power is the divisor of a division.
def wholeTernary (isRight : Bool) (n : Int) (other third : Value) : Part Value := do
  match other.number?, third, third.number? with
  | some m, .nothing, _ => if isRight then wholePower m n else wholePower n m
  | some m, _, some modulus =>
    let (base, exponent) := if isRight then (m, n) else (n, m)
    return .int (← orRaise (Whole.powerModulo base exponent modulus))
  | _, _, _ => return .undecided

-- A number as a floating-point number, where that is what is worked with.
def real? : Value → Part (Option Float)
  | .float x _ => return some x
  | value => match value.number? with
    | some n => some <$> orRaise (Whole.toFloat n)
    | none => return none

def realBinary (operator : Operator) (isRight : Bool) (x : Float) (other : Value) :
    Part Value := do
  match ← real? other with
  | some y => if isRight then realOperation operator y x else realOperation operator x y
  | none => return .undecided

def wholeBinary (operator : Operator) (isRight : Bool) (n : Int) (other : Value) : Part Value := do
  match other.number? with
  | some m => if isRight then wholeOperation operator m n else wholeOperation operator n m
  | none => return .undecided

def orders : String := "byteorder must be either 'little' or 'big'"

-- Whether the greatest byte goes first, as it does unless something else is said.
def isGreatestFirst : Option Value → Part Bool
  | none => return true
  | some (.text "big" _) => return true
  | some (.text "little" _) => return false
  | some (.text ..) => raise (.value orders)
  | some _ => refuse

def bytesOfWhole (n : Int) (values : List Value) : Part Value := do
  if 2 < values.length then refuse
  let length ← (values.head?.map countOf).getD (return 1)
  let order := values[1]?
  if !(order.all Value.isText) then refuse
  let isGreatestFirst ← isGreatestFirst order
  if length < 0 then raise (.value "length argument must be non-negative")
  checkRoom length
  let bytes ← orRaise (Whole.toBytes length.toNat n)
  return .bytes (if isGreatestFirst then bytes.reverse else bytes)

-- Places behind the point mean nothing to whole numbers.
def roundedWhole (n : Int) : List Value → Part Value
  | [] => return .int n
  | [places] => do
    let places ← orRefuse places.whole?
    return .int (if 0 ≤ places then n else Whole.roundedTo places.natAbs n)
  | _ => refuse

-- Numbers are kept in digits of thirty bits, of which there is one at least.
def roomOfWhole (n : Int) : Nat :=
  24 + 4 * max 1 ((Whole.bitLength n + 29) / 30)

def roundedReal (x : Float) : List Value → Part Value
  | [] | [.nothing] => do return .int (← orRaise (Real.nearestWhole x))
  | [places] => do return .float (← orRaise (Real.rounded x (← placeOf places)))
  | _ => refuse

-- What a whole number does, and what flags do as numbers.
def tellWhole (name : String) (n : Int) (values : List Value) : Part Value := do
  match Operator.ofName? name, values with
  | some (.power, isRight), [other, third] => wholeTernary isRight n other third
  | some (operator, isRight), [other] => wholeBinary operator isRight n other
  | _, _ =>
    match name, values with
    | "__round__", values => roundedWhole n values
    | "to_bytes", values => bytesOfWhole n values
    | "__neg__", [] => return .int (-n)
    | "__abs__", [] => return .int n.natAbs
    | "__invert__", [] => return .int (-n - 1)
    | "__pos__", [] | "__int__", [] | "__index__", [] | "conjugate", [] | "__trunc__", []
    | "__floor__", [] | "__ceil__", [] => return .int n
    | "__float__", [] => return .float (← orRaise (Whole.toFloat n))
    | "__bool__", [] => return .flag (n ≠ 0)
    | "bit_length", [] => return .int (Whole.bitLength n)
    | "bit_count", [] => return .int (Whole.bitCount n)
    | "as_integer_ratio", [] => return .tuple [.int n, .int 1]
    | "__getnewargs__", [] => return .tuple [.int n]
    | "__sizeof__", [] => return .int (roomOfWhole n)
    | _, _ => refuse

-- Flags stay flags where they meet each other.
def tellFlag (name : String) (b : Bool) (values : List Value) : Part Value := do
  match name, values with
  | "__and__", [.flag c] | "__rand__", [.flag c] => return .flag (b && c)
  | "__or__", [.flag c] | "__ror__", [.flag c] => return .flag (b || c)
  | "__xor__", [.flag c] | "__rxor__", [.flag c] => return .flag (b != c)
  | name, values => tellWhole name (if b then 1 else 0) values

def formatted (host : Host) (value : Value) (spec : String) : Part Value := do
  match value with
  | .float x _ =>
    if spec.isEmpty then textOf (← host.plainText value)
    else textOf (← orRaise (Format.real spec x))
  | .complex x y _ =>
    if spec.isEmpty then textOf (← host.plainText value)
    else textOf (← orRaise (Format.complex spec x y))
  | value => match value.number? with
    | some n =>
      if spec.isEmpty then textOf (← host.plainText value)
      else
        let what := if value.ofClass = .host "bool" then "bool" else "int"
        textOf (← orRaise (Format.whole what spec n (Whole.toFloat n)))
    | none => refuse

def tellReal (name : String) (x : Float) (values : List Value) : Part Value := do
  let int (result : Except Raised Int) : Part Value := do return .int (← orRaise result)
  match Operator.ofName? name, values with
  | some (.power, isRight), [other, .nothing] => realBinary .power isRight x other
  | some (.power, _), [_, _] => refuse
  | some (operator, isRight), [other] => realBinary operator isRight x other
  | _, _ =>
    match name, values with
    | "__round__", values => roundedReal x values
    | "__neg__", [] => return .float (-x)
    | "__abs__", [] => return .float x.abs
    | "__pos__", [] | "__float__", [] | "conjugate", [] => return .float x
    | "__bool__", [] => return .flag (x != 0)
    | "__int__", [] | "__trunc__", [] => int (Real.whole x)
    | "__floor__", [] => int (Real.below x)
    | "__ceil__", [] => int (Real.above x)
    | "as_integer_ratio", [] =>
      let (num, den) ← orRaise (Real.ratio x)
      return .tuple [.int num, .int den]
    | "hex", [] => textOf (Real.hexText x)
    | "is_integer", [] => return .flag (Real.isWhole x)
    | "__getnewargs__", [] => return .tuple [.float x]
    | _, _ => refuse

end SyntaxHandles.Dynamic.Telling
