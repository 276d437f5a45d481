import SyntaxHandles.Json.Number
import SyntaxHandles.Json.Text

-- Values of a known type, and lists of them. A value of another type is read as far as it is needed
-- to name it, so that what is wrong inside it is reported first.

namespace SyntaxHandles.Json

-- The failure for a value that starts with the character `c` and is none of the expected ones. The
-- brackets of a list or an object are not consumed.
def mismatch (expected : String) (c : Char) (rest : List Char) : Failure :=
  let word (letters : List Char) (found : Found) : Failure :=
    match readWord letters rest with
    | .error failure => failure
    | .ok ⟨rest', _⟩ => .at (.wrongType found expected) rest'
  let number (isNegative : Bool) (start : List Char) : Failure :=
    match readNumber isNegative start with
    | .error failure => failure
    | .ok read => .at (.wrongType read.value.found expected) read.rest
  if c = 'n' then word ['u', 'l', 'l'] .null
  else if c = 't' then word ['r', 'u', 'e'] (.boolean true)
  else if c = 'f' then word ['a', 'l', 's', 'e'] (.boolean false)
  else if c = '-' then number true rest
  else if c.isDigit then number false (c :: rest)
  else if c = '"' then
    match readContent rest with
    | .error failure => failure
    | .ok read => .at (.wrongType (.string (String.ofList read.value)) expected) read.rest
  else if c = '[' then .at (.wrongType .sequence expected) (c :: rest)
  else if c = '\x7b' then .at (.wrongType .map expected) (c :: rest)
  else .peeked .expectedValue (c :: rest)

def readBool : Reader Bool := fun s =>
  match h : skipBlanks s with
  | [] => .error (.at .endInValue [])
  | c :: rest =>
    have shorter : rest.length < s.length := length_lt_of_skipBlanks h
    let word (letters : List Char) (value : Bool) : Attempt Bool s :=
      match readWord letters rest with
      | .error failure => .error failure
      | .ok ⟨rest', _⟩ => .ok ⟨value, rest', by omega⟩
    if c = 't' then word ['r', 'u', 'e'] true
    else if c = 'f' then word ['a', 'l', 's', 'e'] false
    else .error (mismatch "a boolean" c rest)

def narrow? : Number → Except Cause UInt32
  | .natural n =>
    if n < UInt32.size then .ok (UInt32.ofNat n) else .error (.wrongValue (.integer n) "u32")
  | .negative n => .error (.wrongValue (.integer (-n)) "u32")
  | .real x => .error (.wrongType (.floating x) "u32")

def readUInt32 : Reader UInt32 := fun s =>
  match h : skipBlanks s with
  | [] => .error (.at .endInValue [])
  | c :: rest =>
    have shorter : rest.length < s.length := length_lt_of_skipBlanks h
    if c ≠ '-' ∧ !c.isDigit then .error (mismatch "u32" c rest)
    else
      let attempt : Attempt Number s :=
        if c = '-' then (readNumber true rest).within (length_le_of_lt shorter)
        else (readNumber false (c :: rest)).within shorter
      match attempt with
      | .error failure => .error failure
      | .ok read =>
        match narrow? read.value with
        | .ok word => .ok ⟨word, read.rest, read.shorter⟩
        | .error cause => .error (.at cause read.rest)

def readString : Reader String := fun s =>
  match h : skipBlanks s with
  | [] => .error (.at .endInValue [])
  | c :: rest =>
    have shorter : rest.length < s.length := length_lt_of_skipBlanks h
    if c = '"' then ((readContent rest).map String.ofList).within (length_le_of_lt shorter)
    else .error (mismatch "a string" c rest)

-- Goes on to the next element of a list, or finds the end of it. A comma promises an element.
inductive Next (s : List Char)
  | element (start : List Char) (shorter : start.length ≤ s.length)
  | finish (rest : List Char) (shorter : rest.length < s.length)

def nextElement (isFirst : Bool) (s : List Char) : Except Failure (Next s) :=
  match h : skipBlanks s with
  | [] => .error (.at .endInList [])
  | c :: rest =>
    have shorter : rest.length < s.length := length_lt_of_skipBlanks h
    if c = ']' then .ok (.finish rest shorter)
    else if isFirst then .ok (.element s (length_le_refl s))
    else if c ≠ ',' then .error (.peeked .expectedListCommaOrEnd (c :: rest))
    else
      match skipBlanks rest with
      | [] => .error (.at .endInValue [])
      | d :: after =>
        if d = ']' then .error (.peeked .trailingComma (d :: after))
        else .ok (.element rest (length_le_of_lt shorter))

-- The elements of a list after its opening bracket.
def readElements {α : Type} (element : Reader α) (isFirst : Bool) (s : List Char) :
    Attempt (List α) s :=
  match nextElement isFirst s with
  | .error failure => .error failure
  | .ok (.finish rest shorter) => .ok ⟨[], rest, shorter⟩
  | .ok (.element start _) =>
    match element start with
    | .error failure => .error failure
    | .ok ⟨value, rest, shorter⟩ =>
      ((readElements element false rest).map (value :: ·)).within (by omega)
termination_by s.length

def readList {α : Type} (element : Reader α) : Reader (List α) := fun s =>
  match h : skipBlanks s with
  | [] => .error (.at .endInValue [])
  | c :: rest =>
    have shorter : rest.length < s.length := length_lt_of_skipBlanks h
    if c = '[' then (readElements element true rest).within (length_le_of_lt shorter)
    else .error (mismatch "a sequence" c rest)

end SyntaxHandles.Json
