import SyntaxHandles.Decimal.Rounded

-- Floating-point numbers as texts, in one of the usual layouts.

namespace SyntaxHandles.Dynamic.Format

inductive Style
  -- As few digits as tell the number from all others.
  | shortest
  | fixed
  | scientific
  -- Fixed where that is not too long, and scientific otherwise.
  | general
  deriving DecidableEq

structure Layout where
  style : Style
  precision : Nat := 0
  isCapital : Bool := false
  -- Keeps the point even if nothing follows, and all zeros.
  isAlternate : Bool := false
  -- At least one digit behind the point where there is no exponent.
  hasFraction : Bool := false
  hasNoNegativeZero : Bool := false

def isNegative (x : Float) : Bool :=
  0x8000000000000000 ≤ x.toBits.toNat

def digitsOf (layout : Layout) (x : Float) : Decimal.Placed :=
  match layout.style with
  | .shortest => Decimal.shortestDigits x
  | .fixed => Decimal.fixedDigits x layout.precision
  | .scientific => Decimal.significantDigits x (layout.precision + 1)
  | .general => Decimal.significantDigits x (max layout.precision 1)

def hasExponent (layout : Layout) (point : Int) : Bool :=
  match layout.style with
  | .shortest => point ≤ -4 || 16 < point
  | .fixed => false
  | .scientific => true
  | .general =>
    point ≤ -4 || (max layout.precision 1 : Int) - (if layout.hasFraction then 1 else 0) < point

-- The place behind the last digit that is written.
def lastPlace (layout : Layout) (digits : List Char) (point : Int) : Int :=
  match layout.style with
  | .fixed => point + layout.precision
  | .scientific => layout.precision + 1
  | .general => if layout.isAlternate then max layout.precision 1 else digits.length
  | .shortest => digits.length

-- The digits from one place up to another, with zeros where there are none.
def digitsBetween (digits : List Char) (first last : Int) : List Char :=
  List.replicate (min 0 last - first).toNat '0' ++
    ((digits.take last.toNat).drop first.toNat) ++
      List.replicate (last - max first digits.length).toNat '0'

def exponentText (exponent : Int) : List Char :=
  let digits := Nat.toDigits 10 exponent.natAbs
  ['e', if exponent < 0 then '-' else '+'] ++
    List.replicate (2 - digits.length) '0' ++ digits

def sizeText (layout : Layout) (placed : Decimal.Placed) : List Char :=
  let ⟨digits, point⟩ := placed
  -- Zero has one digit before its point.
  let point := if digits.isEmpty then 1 else point
  let isScientific := hasExponent layout point
  let exponent := point - 1
  let last := lastPlace layout digits point
  let point := if isScientific then 1 else point
  let first := if point ≤ 0 then point - 1 else 0
  let least := if layout.hasFraction && !isScientific then point + 1 else point
  let last := max last least
  let fraction := digitsBetween digits point last
  let whole := if point ≤ 0 then ['0'] else digitsBetween digits first point
  let pointed := if fraction.isEmpty && !layout.isAlternate then whole else whole ++ '.' :: fraction
  if isScientific then pointed ++ exponentText exponent else pointed

def realText (layout : Layout) (x : Float) : String :=
  let chars :=
    if x.isNaN then ['n', 'a', 'n']
    else
      let placed := if x.isInf then Decimal.Placed.zero else digitsOf layout x
      let isZero := !x.isInf && placed.digits.isEmpty
      let hasSign := isNegative x && !(layout.hasNoNegativeZero && isZero)
      (if hasSign then ['-'] else []) ++
        (if x.isInf then ['i', 'n', 'f'] else sizeText layout placed)
  String.ofList (if layout.isCapital then chars.map Char.toUpper else chars)

end SyntaxHandles.Dynamic.Format
