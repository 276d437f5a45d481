import SyntaxHandles.Dynamic.Telling.Written

-- Texts with marks that start with a percent sign, each of which stands for the next of some
-- values, or for what a table has under a name.

namespace SyntaxHandles.Dynamic.Telling

namespace Percent

structure Mark where
  isLeft : Bool := false
  hasSign : Bool := false
  hasBlank : Bool := false
  isAlternate : Bool := false
  hasZeros : Bool := false
  width : Option Nat := none
  precision : Option Nat := none
  kind : Char

-- The values that are not used yet. What is no tuple is a single value.
structure Supply where
  values : List Value
  -- Where values are looked for by name.
  table : Option Value

def Supply.next (supply : Supply) : Part (Value × Supply) :=
  match supply.values with
  | value :: values => return (value, { supply with values })
  | [] => refuse

def incomplete : String := "incomplete format"

-- A name up to the bracket that closes it, and what follows.
def key (depth : Nat) : List Char → Option (List Char × List Char)
  | [] => none
  | c :: rest =>
    if c = ')' && depth = 0 then some ([], rest)
    else
      let depth := if c = '(' then depth + 1 else if c = ')' then depth - 1 else depth
      (key depth rest).map fun (name, rest) => (c :: name, rest)

def flags (mark : Mark) : List Char → Mark × List Char
  | '-' :: rest => flags { mark with isLeft := true } rest
  | '+' :: rest => flags { mark with hasSign := true } rest
  | ' ' :: rest => flags { mark with hasBlank := true } rest
  | '#' :: rest => flags { mark with isAlternate := true } rest
  | '0' :: rest => flags { mark with hasZeros := true } rest
  | rest => (mark, rest)

-- A number in front, which must not be too large.
def number? (most : Nat) (problem : String) (chars : List Char) :
    Part (Option Nat × List Char) := do
  let digits := chars.takeWhile Char.isDigit
  if digits.isEmpty then return (none, chars)
  let n := digits.foldl (fun n c => 10 * n + (c.toNat - '0'.toNat)) 0
  if most < n then raise (.value problem)
  return (some n, chars.drop digits.length)

-- A number that is one of the values.
def suppliedNumber (supply : Supply) (read : Value → Part Int) : Part (Int × Supply) := do
  let (value, supply) ← supply.next
  if value.number?.isNone then refuse
  return (← read value, supply)

def width (mark : Mark) (supply : Supply) : List Char → Part (Mark × Supply × List Char)
  | '*' :: rest => do
    let (n, supply) ← suppliedNumber supply countOf
    return ({ mark with width := some n.natAbs, isLeft := mark.isLeft || n < 0 }, supply, rest)
  | chars => do
    let (n, rest) ← number? Format.mostSize "width too big" chars
    return ({ mark with width := n }, supply, rest)

def precision (mark : Mark) (supply : Supply) : List Char → Part (Mark × Supply × List Char)
  | '.' :: '*' :: rest => do
    let (n, supply) ← suppliedNumber supply shortOf
    return ({ mark with precision := some n.toNat }, supply, rest)
  | '.' :: rest => do
    let (n, rest) ← number? 0x7fffffff "precision too big" rest
    return ({ mark with precision := some (n.getD 0) }, supply, rest)
  | rest => return (mark, supply, rest)

-- A letter that tells how long a number is does not count.
def kind : List Char → Part (Char × List Char)
  | [] => raise (.value incomplete)
  | c :: rest =>
    if c = 'h' || c = 'l' || c = 'L' then
      match rest with
      | [] => raise (.value incomplete)
      | d :: rest => return (d, rest)
    else return (c, rest)

def fractionless (n : Int) (mark : Mark) : Part (List Char) := do
  let base := match mark.kind with
    | 'o' => 8
    | 'x' | 'X' => 16
    | _ => 10
  let digits ←
    if base = 10 then do pure (← intText n.natAbs).toList else pure (Nat.toDigits base n.natAbs)
  let digits := List.replicate (mark.precision.getD 0 - digits.length) '0' ++ digits
  let front := if mark.isAlternate && base ≠ 10 then ['0', mark.kind] else []
  let digits := if mark.kind = 'X' then digits.map Char.toUpper else digits
  return (if n < 0 then ['-'] else []) ++ front ++ digits

-- Other numbers than whole ones are cut off, unless a base is asked for.
def wholeFor (mark : Mark) (value : Value) : Part Int :=
  match value with
  | .float x _ => if mark.kind = 'd' || mark.kind = 'i' || mark.kind = 'u' then
      orRaise (Real.whole x)
    else refuse
  | value => orRefuse value.whole?

def realFor (value : Value) : Part Float := do
  match value with
  | .float x _ => return x
  | value => orRaise (Whole.toFloat (← orRefuse value.whole?))

def realChars (mark : Mark) (x : Float) : List Char :=
  let style := match mark.kind.toLower with
    | 'e' => Format.Style.scientific
    | 'f' => .fixed
    | _ => .general
  (Format.realText
    { style, precision := mark.precision.getD 6, isCapital := mark.kind.isUpper
      isAlternate := mark.isAlternate }
    x).toList

-- A line of characters, or of bytes that are shown as characters.
inductive Medium
  | chars
  | bytes

def mostCode : Medium → Int
  | .chars => 0x10ffff
  | .bytes => 0xff

def charFor (medium : Medium) (value : Value) : Part Char :=
  match medium, value with
  | .chars, .text text _ => match text.toList with
    | [c] => return c
    | _ => refuse
  | .bytes, .bytes [byte] _ => return Char.ofNat byte.toNat
  | medium, value => do
    let n ← orRefuse value.whole?
    if n < 0 ∨ mostCode medium < n then raise .overflow
    return Char.ofNat n.toNat

def lineFor (host : Host) (medium : Medium) (value : Value) : Part (List Char) := do
  match medium, value with
  | .chars, value => return (← host.plainText value).toList
  | .bytes, .bytes bytes _ => return Numeral.charsOf bytes
  | .bytes, _ => refuse

def unsupported (c : Char) (place : Nat) : String :=
  let shown := if 31 ≤ c.toNat && c.toNat ≤ 126 then c else '?'
  "unsupported format character '" ++ String.singleton shown ++ "' (0x" ++
    String.ofList (Nat.toDigits 16 c.toNat) ++ ") at index " ++ toString place

-- The characters of a value, and whether they are a number.
def charsFor (host : Host) (medium : Medium) (mark : Mark) (value : Value) (place : Nat) :
    Part (List Char × Bool) := do
  match mark.kind, medium with
  | 's', _ | 'b', .bytes => return (← lineFor host medium value, false)
  | 'r', .chars => return ((← host.inspect [] value).toList, false)
  | 'a', _ | 'r', .bytes => return (plainAscii (← host.inspect [] value), false)
  | 'c', _ => return ([← charFor medium value], false)
  | c, _ =>
    if ['d', 'i', 'u', 'o', 'x', 'X'].contains c then
      return (← fractionless (← wholeFor mark value) mark, true)
    else if ['e', 'E', 'f', 'F', 'g', 'G'].contains c then
      return (realChars mark (← realFor value), true)
    else raise (.value (unsupported c place))

def isCut (mark : Mark) : Bool :=
  ['s', 'r', 'a', 'b'].contains mark.kind

-- The sign of a number, what marks its base, and what is left of it.
def parts (mark : Mark) (chars : List Char) : List Char × List Char × List Char :=
  let (sign, rest) := match chars with
    | '-' :: rest => (['-'], rest)
    | rest => (if mark.hasSign then ['+'] else if mark.hasBlank then [' '] else [], rest)
  if mark.isAlternate && ['x', 'X', 'o'].contains mark.kind then
    (sign, rest.take 2, rest.drop 2)
  else (sign, [], rest)

def filled (mark : Mark) (chars : List Char) (isNumber : Bool) : List Char :=
  let chars := match mark.precision with
    | some most => if isCut mark then chars.take most else chars
    | none => chars
  let (sign, front, rest) := if isNumber then parts mark chars else ([], [], chars)
  let missing := mark.width.getD 0 - (sign.length + front.length + rest.length)
  if mark.isLeft then sign ++ front ++ rest ++ List.replicate missing ' '
  else if isNumber && mark.hasZeros then sign ++ front ++ List.replicate missing '0' ++ rest
  else List.replicate missing ' ' ++ sign ++ front ++ rest

-- One mark, behind its percent sign: what it stands for, and what follows.
def one (host : Host) (medium : Medium) (length : Nat) (supply : Supply) (chars : List Char) :
    Part (List Char × Supply × List Char) := do
  let (supply, chars) ← match chars with
    | '(' :: rest => do
      let table ← orRefuse supply.table
      match key 0 rest with
      | none => raise (.value "incomplete format key")
      | some (name, rest) =>
        let name := match medium with
          | .chars => Value.chars name
          | .bytes => .bytes (name.map fun c => UInt8.ofNat c.toNat)
        let value ← host.itemOf table name
        pure ({ supply with values := [value] }, rest)
    | chars => pure (supply, chars)
  let (mark, chars) := flags { kind := ' ' } chars
  let (mark, supply, chars) ← width mark supply chars
  let (mark, supply, chars) ← precision mark supply chars
  let (kind, chars) ← kind chars
  let mark := { mark with kind }
  let (value, supply) ← supply.next
  let (own, isNumber) ← charsFor host medium mark value (length - chars.length - 1)
  checkRoom (mark.width.getD 0)
  if supply.table.isSome && !supply.values.isEmpty then refuse
  return (filled mark own isNumber, supply, chars)

def fill (host : Host) (medium : Medium) (length : Nat) : (fuel : Nat) → Supply → List Char →
    Part (List Char × Supply)
  | 0, supply, _ | _, supply, [] => return ([], supply)
  | fuel + 1, supply, c :: rest => do
    if c ≠ '%' then
      let (back, supply) ← fill host medium length fuel supply rest
      return (c :: back, supply)
    else
      let (front, supply, rest) ← match rest with
        | '%' :: rest => pure (['%'], supply, rest)
        | rest => one host medium length supply rest
      let (back, supply) ← fill host medium length fuel supply rest
      return (front ++ back, supply)

-- Whether values are looked for in a value by name. Lines of the same kind are values themselves.
def isTable (medium : Medium) (value : Value) : Part Bool := do
  match medium, value with
  | _, .tuple .. | _, .text .. | .bytes, .bytes .. => return false
  | _, value => return (← special? value "__getitem__").isSome

end Percent

-- All values have to be used, unless they are looked for by name.
def fillPercent (host : Host) (medium : Percent.Medium) (chars : List Char) (given : Value) :
    Part (List Char) := do
  let values := match given with
    | .tuple items _ => items
    | value => [value]
  let table := if ← Percent.isTable medium given then some given else none
  let (filled, supply) ←
    Percent.fill host medium chars.length (chars.length + 1) ⟨values, table⟩ chars
  if !supply.values.isEmpty && table.isNone then refuse
  return filled

end SyntaxHandles.Dynamic.Telling
