import SyntaxHandles.Dynamic.Telling.Number

-- What numbers of two parts do when they are told to.

namespace SyntaxHandles.Dynamic.Telling

def complexOf (number : Complex) : Value :=
  .complex number.re number.im

def complex? : Value → Part (Option Complex)
  | .complex x y _ => return some ⟨x, y⟩
  | value => do return (← real? value).map (⟨·, 0⟩)

def complexOperation (operator : Operator) (a b : Complex) : Part Value := do
  match operator with
  | .add => return complexOf (a.sum b)
  | .subtract => return complexOf (a.difference b)
  | .multiply => return complexOf (a.product b)
  | .realQuotient => return complexOf (← orRaise (a.quotient b))
  | .power => return complexOf (← orRaise (a.power b))
  | _ => refuse

def complexBinary (operator : Operator) (isRight : Bool) (a : Complex) (other : Value) :
    Part Value := do
  match ← complex? other with
  | some b => if isRight then complexOperation operator b a else complexOperation operator a b
  | none => return .undecided

def noModulo : String := "complex modulo"

def tellComplex (name : String) (a : Complex) (values : List Value) : Part Value := do
  match Operator.ofName? name, values with
  | some (.power, isRight), [other, third] =>
    match ← complex? other, third with
    | none, _ => return .undecided
    | some _, .nothing => complexBinary .power isRight a other
    | some _, _ => raise (.value noModulo)
  | some (operator, isRight), [other] => complexBinary operator isRight a other
  | _, _ =>
    match name, values with
    | "__neg__", [] => return complexOf ⟨-a.re, -a.im⟩
    | "__pos__", [] | "__complex__", [] => return complexOf a
    | "conjugate", [] => return complexOf ⟨a.re, -a.im⟩
    | "__abs__", [] => return .float (← orRaise a.size)
    | "__bool__", [] => return .flag (a.re != 0 || a.im != 0)
    | "__getnewargs__", [] => return .tuple [.float a.re, .float a.im]
    | _, _ => refuse

def complexFrom (value : Value) : Part Complex := do
  match value.whole? with
  | some n => return ⟨← orRaise (Whole.toFloat n), 0⟩
  | none => orRefuse (← complex? value)

def isComplex : Value → Bool
  | .complex .. => true
  | _ => false

def isPart (value : Value) : Bool :=
  isComplex value || value.whole?.isSome || value.ofClass = .host "float"

-- Each of two numbers may have two parts. The second one counts as turned by a right angle.
def makeComplex : List Value → Part Value
  | [] => return complexOf ⟨0, 0⟩
  | [.complex x y identity] => return .complex x y identity
  | [.text given _] => do return complexOf (← orRaise (Complex.read given))
  | [value] => do return complexOf (← complexFrom value)
  | [value, turned] => do
    if !isPart value || !isPart turned then refuse
    let a ← complexFrom value
    let b ← complexFrom turned
    let x := if isComplex turned then a.re - b.im else a.re
    let y := if isComplex value then b.re + a.im else b.re
    return complexOf ⟨x, y⟩
  | _ => refuse

end SyntaxHandles.Dynamic.Telling
