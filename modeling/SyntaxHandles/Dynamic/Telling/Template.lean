import SyntaxHandles.Dynamic.Access
import SyntaxHandles.Dynamic.Telling.Written

-- Templates: texts with fields in braces, which stand for values. A field names a value by its
-- place or by its name, may go on to what the value has, and may say how all that is to be written.

namespace SyntaxHandles.Dynamic.Telling

namespace Template

def opening : Char := '\x7b'

def closing : Char := '\x7d'

structure Field where
  name : List Char
  conversion : Option Char := none
  spec : List Char := []

def refusal {α : Type} (words : String) : Except Raised α :=
  .error (.value words)

def single (c : Char) : String :=
  "Single '" ++ String.singleton c ++ "' encountered in format string"

-- What is before the next field. Braces that are written twice stand for themselves. The answer is
-- whether a field follows.
def literal : List Char → Except Raised (List Char × Bool × List Char)
  | [] => .ok ([], false, [])
  | [c] =>
    if c = opening || c = closing then refusal (single c) else .ok ([c], false, [])
  | c :: d :: rest =>
    if c = opening || c = closing then
      if c = d then (literal rest).map fun (front, found) => (c :: front, found)
      else if c = closing then refusal (single c)
      else .ok ([], true, d :: rest)
    else (literal (d :: rest)).map fun (front, found) => (c :: front, found)

-- The name of a field, what ends it, and what follows. In brackets nothing ends a name.
def fieldName (inBrackets : Bool) : List Char → Except Raised (List Char × Char × List Char)
  | [] => refusal ("expected '" ++ String.singleton closing ++ "' before end of string")
  | c :: rest =>
    let go (inBrackets : Bool) := (fieldName inBrackets rest).map fun (name, found) =>
      (c :: name, found)
    if inBrackets then go (c ≠ ']')
    else if c = opening then
      refusal ("unexpected '" ++ String.singleton opening ++ "' in field name")
    else if c = closing || c = ':' || c = '!' then .ok ([], c, rest)
    else go (c = '[')

-- What is up to the brace that ends a field in which so many braces are open.
def fieldSpec (depth : Nat) : List Char → Except Raised (List Char × List Char)
  | [] => refusal ("unmatched '" ++ String.singleton opening ++ "' in format spec")
  | c :: rest =>
    if c = closing && depth = 0 then .ok ([], rest)
    else
      let depth := if c = opening then depth + 1 else if c = closing then depth - 1 else depth
      (fieldSpec depth rest).map fun (spec, rest) => (c :: spec, rest)

def field (chars : List Char) : Except Raised (Field × List Char) := do
  let (name, ending, rest) ← fieldName false chars
  if ending = closing then return ({ name }, rest)
  if ending = ':' then
    let (spec, rest) ← fieldSpec 0 rest
    return ({ name, spec }, rest)
  match rest with
  | [] => refusal "end of string while looking for conversion specifier"
  | conversion :: rest =>
    match rest with
    | c :: behind =>
      if c = closing then return ({ name, conversion }, behind)
      if c ≠ ':' then refusal "expected ':' after conversion specifier"
      let (spec, rest) ← fieldSpec 0 behind
      return ({ name, conversion, spec }, rest)
    | [] =>
      let (spec, rest) ← fieldSpec 0 []
      return ({ name, conversion, spec }, rest)

-- A number, if there are digits and nothing else.
def number? (chars : List Char) : Except Raised (Option Nat) :=
  let digits := chars.map Text.digit?
  if chars.isEmpty || digits.any Option.isNone then .ok none
  else
    let n := Numeral.valueOf 10 (digits.filterMap id)
    if Format.mostSize < n then refusal "Too many decimal digits in format string" else .ok (some n)

-- Whether places are counted, or given as numbers.
inductive Numbering
  | free
  | counted (next : Nat)
  | given

-- What values a template is about.
structure Source where
  places : Option (List Value)
  names : Option Value

def notBoth (isManual : Bool) : String :=
  let (manual, automatic) := ("manual field specification", "automatic field numbering")
  "cannot switch from " ++ (if isManual then manual else automatic) ++ " to " ++
    (if isManual then automatic else manual)

def place (source : Source) (n : Nat) : Part Value := do
  match source.places with
  | none => raise (.value "Format string contains positional fields")
  | some values => match values[n]? with
    | some value => return value
    | none => raise .place

def first (host : Host) (source : Source) (numbering : Numbering) (name : List Char) :
    Part (Value × Numbering) := do
  match ← orRaise (number? name), numbering with
  | some _, .counted _ => raise (.value (notBoth false))
  | some n, _ => return (← place source n, .given)
  | none, numbering =>
    if name.isEmpty then
      match numbering with
      | .given => raise (.value (notBoth true))
      | .counted next => return (← place source next, .counted (next + 1))
      | .free => return (← place source 0, .counted 1)
    else
      match source.names with
      | none => host.missing (.chars name)
      | some names => return (← host.itemOf names (.chars name), numbering)

def emptyPart : String := "Empty attribute in format string"

-- Sequences are asked for a place, and tables for a key.
def item (host : Host) (value : Value) (name : List Char) : Part Value := do
  match ← orRaise (number? name) with
  | some n => host.itemOf value (.int n)
  | none => host.itemOf value (.chars name)

-- Goes on from a value to what it has, step by step.
def follow (host : Host) : (fuel : Nat) → Value → List Char → Part Value
  | 0, value, _ | _, value, [] => return value
  | fuel + 1, value, c :: rest => do
    if c = '.' then
      let name := rest.takeWhile fun c => c ≠ '.' && c ≠ '['
      if name.isEmpty then raise (.value emptyPart)
      follow host fuel (← host.getAttribute value (String.ofList name)) (rest.drop name.length)
    else if c = '[' then
      let name := rest.takeWhile (· ≠ ']')
      if name.length = rest.length then raise (.value "Missing ']' in format string")
      if name.isEmpty then raise (.value emptyPart)
      follow host fuel (← item host value name) (rest.drop (name.length + 1))
    else raise (.value "Only '.' or '[' may follow ']' in format field specifier")

def valueOf (host : Host) (source : Source) (numbering : Numbering) (name : List Char) :
    Part (Value × Numbering) := do
  let front := name.takeWhile fun c => c ≠ '.' && c ≠ '['
  let (value, numbering) ← first host source numbering front
  return (← follow host name.length value (name.drop front.length), numbering)

def unknownConversion (c : Char) : String :=
  "Unknown conversion specifier " ++
    (if 32 < c.toNat && c.toNat < 127 then String.singleton c
      else "\\x" ++ String.ofList (Nat.toDigits 16 c.toNat))

def converted (host : Host) (value : Value) : Option Char → Part Value
  | none => return value
  | some 'r' => do textOf (← host.inspect [] value)
  | some 's' => do textOf (← host.plainText value)
  | some 'a' => do charsOf (plainAscii (← host.inspect [] value))
  | some c => raise (.value (unknownConversion c))

-- Fills the fields one by one. `expand` fills those within the fields.
def fillWith (expand : Numbering → List Char → Part (List Char × Numbering)) (host : Host)
    (source : Source) : (fuel : Nat) → Numbering → List Char → Part (List Char × Numbering)
  | 0, numbering, _ => return ([], numbering)
  | fuel + 1, numbering, chars => do
    let (front, hasField, rest) ← orRaise (literal chars)
    if !hasField then return (front, numbering)
    let (field, rest) ← orRaise (field rest)
    let (value, numbering) ← valueOf host source numbering field.name
    let value ← converted host value field.conversion
    let (spec, numbering) ←
      if field.spec.contains opening then expand numbering field.spec
      else pure (field.spec, numbering)
    let text ← written host value (String.ofList spec)
    let (back, numbering) ← fillWith expand host source fuel numbering rest
    return (front ++ text.toList ++ back, numbering)

-- Fields stand in fields, but not in those again.
def fill (host : Host) (source : Source) : (depth : Nat) → Numbering → List Char →
    Part (List Char × Numbering)
  | 0, _, _ => raise (.value "Max string recursion exceeded")
  | depth + 1, numbering, chars =>
    fillWith (fill host source depth) host source (chars.length + 1) numbering chars

end Template

def fillTemplate (host : Host) (source : Template.Source) (chars : List Char) : Part Value := do
  charsOf (← Template.fill host source 2 .free chars).1

end SyntaxHandles.Dynamic.Telling
