import SyntaxHandles.Json.Read

-- Numbers: whole ones that fit 64 bits are kept exactly, all others as the nearest floating-point
-- number that one multiplication or division by a power of ten gives.

namespace SyntaxHandles.Json

inductive Number
  | natural (n : Nat)
  -- The number below zero with this absolute value.
  | negative (n : Nat)
  | real (x : Float)

def Number.found : Number → Found
  | .natural n => .integer n
  | .negative n => .integer (-n)
  | .real x => .floating x

def digitValue (c : Char) : Nat :=
  c.toNat - '0'.toNat

def startsWithDigit : List Char → Bool
  | c :: _ => c.isDigit
  | [] => false

theorem length_dropDigits_le (s : List Char) : (s.dropWhile Char.isDigit).length ≤ s.length :=
  (List.dropWhile_sublist Char.isDigit).length_le

-- Appends digits to a number as long as it stays within a bound. The digits that are left over are
-- returned: none of them is looked at, even where a later one would fit.
def appendDigits (bound : Nat) : Nat → List Char → Nat × List Char
  | n, [] => (n, [])
  | n, d :: digits =>
    let longer := n * 10 + digitValue d
    if bound < longer then (n, d :: digits) else appendDigits bound longer digits

def powerOfTen (exponent : Nat) : Float :=
  Float.ofScientific 1 false exponent

-- Exponents of powers of ten stop where the floating-point range does; smaller numbers take further
-- steps. Nothing is returned for a number that is too large.
def scale? (x : Float) (exponent : Int) : Option Float :=
  if exponent.natAbs ≤ 308 then
    if 0 ≤ exponent then
      let y := x * powerOfTen exponent.natAbs
      if y.isInf then none else some y
    else some (x / powerOfTen exponent.natAbs)
  else if x == 0 then some x
  else if 0 ≤ exponent then none
  else scale? (x / powerOfTen 308) (exponent + 308)
termination_by exponent.natAbs
decreasing_by omega

-- The leading digits of a number that fit 64 bits, and the power of ten that they lack.
structure Parts where
  isNegative : Bool
  significand : Nat
  exponent : Int := 0

def Parts.real? (parts : Parts) : Option Number :=
  (scale? (UInt64.ofNat parts.significand).toFloat parts.exponent).map fun x =>
    .real (if parts.isNegative then -x else x)

-- A whole number, unless it is below every 64-bit one. There is no negative zero among them.
def Parts.whole? (parts : Parts) : Option Number :=
  if !parts.isNegative then some (.natural parts.significand)
  else if 0 < parts.significand ∧ parts.significand ≤ 0x8000000000000000 then
    some (.negative parts.significand)
  else parts.real?

variable {x : Char}

-- Ends a number at a text that does not go on with it. A character has been read before it.
def finish (number : Option Number) (rest : List Char) {s : List Char}
    (h : rest.length ≤ s.length) : Attempt Number (x :: s) :=
  match number with
  | some number => .ok ⟨number, rest, length_lt_cons_of_le x h⟩
  | none => .error (.at .numberOutOfRange rest)

-- What follows the letter of an exponent. One that is too large for 32 bits makes any number but
-- zero too large, and is noticed at the digit that goes too far; below zero it makes them vanish.
def readExponent (parts : Parts) (s : List Char) : Attempt Number (x :: s) :=
  let isSigned := s.head? == some '+' || s.head? == some '-'
  let digitsOn := if isSigned then s.tail else s
  have shorter : digitsOn.length ≤ s.length := by
    unfold digitsOn; split <;> simp
  if digitsOn.isEmpty then .error (.at .endInValue [])
  else if !startsWithDigit digitsOn then .error (.peeked .invalidNumber digitsOn)
  else
    let rest := digitsOn.dropWhile Char.isDigit
    have shorter' : rest.length ≤ s.length := Nat.le_trans (length_dropDigits_le _) shorter
    let isBelow := s.head? == some '-'
    match appendDigits 0x7fffffff 0 (digitsOn.takeWhile Char.isDigit) with
    | (power, []) =>
      let exponent := parts.exponent + (if isBelow then -(power : Int) else power)
      finish { parts with exponent }.real? rest shorter'
    | (_, _ :: left) =>
      if parts.significand ≠ 0 && !isBelow then .error (.at .numberOutOfRange (left ++ rest))
      else finish { parts with significand := 0, exponent := 0 }.real? rest shorter'

-- What follows a decimal point.
def readFraction (parts : Parts) (s : List Char) : Attempt Number (x :: s) :=
  let rest := s.dropWhile Char.isDigit
  have shorter : rest.length ≤ s.length := length_dropDigits_le s
  let digits := s.takeWhile Char.isDigit
  if digits.isEmpty then
    .error (if rest.isEmpty then .at .endInValue [] else .peeked .invalidNumber rest)
  else
    let (significand, left) := appendDigits 0xffffffffffffffff parts.significand digits
    let taken := digits.length - left.length
    let parts := { parts with significand, exponent := parts.exponent - taken }
    match h : rest with
    | 'e' :: after => (readExponent (x := 'e') parts after).within (by simp at shorter ⊢; omega)
    | 'E' :: after => (readExponent (x := 'E') parts after).within (by simp at shorter ⊢; omega)
    | rest => finish parts.real? rest shorter

-- What follows the sign, if there is one.
def readNumber (isNegative : Bool) : Reader Number := fun s =>
  match s with
  | [] => .error (.at .endInValue [])
  | c :: after =>
    if !c.isDigit then .error (.peeked .invalidNumber s)
    else if c = '0' ∧ startsWithDigit after then .error (.peeked .invalidNumber after)
    else
      let (significand, left) :=
        appendDigits 0xffffffffffffffff (digitValue c) (after.takeWhile Char.isDigit)
      let parts : Parts := ⟨isNegative, significand, left.length⟩
      let rest := after.dropWhile Char.isDigit
      have shorter : rest.length ≤ after.length := length_dropDigits_le after
      match h : rest with
      | '.' :: after' => (readFraction (x := '.') parts after').within (by simp at shorter ⊢; omega)
      | 'e' :: after' => (readExponent (x := 'e') parts after').within (by simp at shorter ⊢; omega)
      | 'E' :: after' => (readExponent (x := 'E') parts after').within (by simp at shorter ⊢; omega)
      | rest => finish (if left.isEmpty then parts.whole? else parts.real?) rest shorter

-- A number that is skipped only has to follow the grammar.
def skipExponent (s : List Char) : Attempt Unit (x :: s) :=
  let isSigned := s.head? == some '+' || s.head? == some '-'
  let digitsOn := if isSigned then s.tail else s
  have shorter : digitsOn.length ≤ s.length := by
    unfold digitsOn; split <;> simp
  if !startsWithDigit digitsOn then .error (.peeked .invalidNumber digitsOn)
  else .ok ⟨(), digitsOn.dropWhile Char.isDigit, by
    have := length_dropDigits_le digitsOn; simp; omega⟩

def skipFraction (s : List Char) : Attempt Unit (x :: s) :=
  let rest := s.dropWhile Char.isDigit
  have shorter : rest.length ≤ s.length := length_dropDigits_le s
  if !startsWithDigit s then .error (.peeked .invalidNumber s)
  else
    match h : rest with
    | 'e' :: after => (skipExponent (x := 'e') after).within (by simp at shorter ⊢; omega)
    | 'E' :: after => (skipExponent (x := 'E') after).within (by simp at shorter ⊢; omega)
    | rest => .ok ⟨(), rest, length_lt_cons_of_le x shorter⟩

def skipNumber : Reader Unit := fun s =>
  match s with
  | [] => .error (.at .invalidNumber [])
  | c :: after =>
    if !c.isDigit then .error (.peeked .invalidNumber s)
    else if c = '0' ∧ startsWithDigit after then .error (.peeked .invalidNumber after)
    else
      let rest := after.dropWhile Char.isDigit
      have shorter : rest.length ≤ after.length := length_dropDigits_le after
      match h : rest with
      | '.' :: after' => (skipFraction (x := '.') after').within (by simp at shorter ⊢; omega)
      | 'e' :: after' => (skipExponent (x := 'e') after').within (by simp at shorter ⊢; omega)
      | 'E' :: after' => (skipExponent (x := 'E') after').within (by simp at shorter ⊢; omega)
      | rest => .ok ⟨(), rest, length_lt_cons_of_le c shorter⟩

end SyntaxHandles.Json
