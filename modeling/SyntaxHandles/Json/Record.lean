import SyntaxHandles.Json.Scalar
import SyntaxHandles.Json.Skip

-- Records of named fields, each with a default. A record is written as an object, where the order
-- of the fields is free and other names are stepped over, or as a list of the fields in their
-- order.

namespace SyntaxHandles.Json

-- A field of a record is read as the change that it makes to the record.
structure Field (ρ : Type) where
  name : String
  read : Reader (ρ → ρ)

variable {ρ : Type}

-- Goes on to the key of the next member, behind its opening quote, or finds the end of the object.
inductive NextKey (s : List Char)
  | key (start : List Char) (shorter : start.length < s.length)
  | finish (rest : List Char) (shorter : rest.length < s.length)

def nextKey (isFirst : Bool) (s : List Char) : Except Failure (NextKey s) :=
  match h : skipBlanks s with
  | [] => .error (.at .endInObject [])
  | c :: rest =>
    have shorter : rest.length < s.length := length_lt_of_skipBlanks h
    if c = '\x7d' then .ok (.finish rest shorter)
    else if isFirst then
      if c = '"' then .ok (.key rest shorter) else .error (.peeked .keyNotString (c :: rest))
    else if c ≠ ',' then .error (.peeked .expectedObjectCommaOrEnd (c :: rest))
    else
      match h' : skipBlanks rest with
      | [] => .error (.at .endInValue [])
      | d :: after =>
        have shorter' : after.length < rest.length := length_lt_of_skipBlanks h'
        if d = '"' then .ok (.key after (length_lt_of_lt_of_lt shorter' shorter))
        else if d = '\x7d' then .error (.peeked .trailingComma (d :: after))
        else .error (.peeked .keyNotString (d :: after))

-- A field that is given again is reported behind its key, and behind the end of the object where
-- that comes next.
def repeated (name : String) (afterKey : List Char) : Failure :=
  match skipBlanks afterKey with
  | '\x7d' :: rest => .at (.duplicateField name) rest
  | rest => .at (.duplicateField name) rest

-- The members of an object after its opening brace. `seen` holds the fields that were given.
def readMembers (fields : List (Field ρ)) (isFirst : Bool) (seen : List String) (record : ρ)
    (s : List Char) : Attempt ρ s :=
  match nextKey isFirst s with
  | .error failure => .error failure
  | .ok (.finish rest shorter) => .ok ⟨record, rest, shorter⟩
  | .ok (.key start _) =>
    match readContent start with
    | .error failure => .error failure
    | .ok ⟨key, afterKey, _⟩ =>
      let name := String.ofList key
      match fields.find? (·.name == name) with
      | none =>
        match Attempt.andThen (skipColon afterKey) fun () => skipValue with
        | .error failure => .error failure
        | .ok ⟨(), rest, _⟩ => (readMembers fields false seen record rest).within (by omega)
      | some field =>
        if seen.contains name then .error (repeated name afterKey)
        else
          match Attempt.andThen (skipColon afterKey) fun () => field.read with
          | .error failure => .error failure
          | .ok ⟨change, rest, _⟩ =>
            (readMembers fields false (name :: seen) (change record) rest).within (by omega)
termination_by s.length

-- The end of a list after the last field.
def closeList : Reader Unit := fun s =>
  match h : skipBlanks s with
  | [] => .error (.at .endInList [])
  | c :: rest =>
    if c = ']' then .ok ⟨(), rest, length_lt_of_skipBlanks h⟩
    else if c = ',' then
      match skipBlanks rest with
      | ']' :: after => .error (.peeked .trailingComma (']' :: after))
      | after => .error (.peeked .trailingCharacters after)
    else .error (.peeked .trailingCharacters (c :: rest))

-- The fields in their order, after the opening bracket of a list. The last ones may be missing.
def readPositional (fields : List (Field ρ)) (isFirst : Bool) (record : ρ) (s : List Char) :
    Attempt ρ s :=
  match fields with
  | [] => (closeList s).map fun () => record
  | field :: fields =>
    match nextElement isFirst s with
    | .error failure => .error failure
    | .ok (.finish rest shorter) => .ok ⟨record, rest, shorter⟩
    | .ok (.element start shorter) =>
      match field.read start with
      | .error failure => .error failure
      | .ok ⟨change, rest, shorter'⟩ =>
        (readPositional fields false (change record) rest).within
          (length_le_of_lt_of_le shorter' shorter)

-- Reads a record, where `defaults` stands for the fields that are missing.
def readRecord (name : String) (fields : List (Field ρ)) (defaults : ρ) : Reader ρ := fun s =>
  match h : skipBlanks s with
  | [] => .error (.at .endInValue [])
  | c :: rest =>
    have shorter : rest.length < s.length := length_lt_of_skipBlanks h
    if c = '[' then (readPositional fields true defaults rest).within (length_le_of_lt shorter)
    else if c = '\x7b' then
      (readMembers fields true [] defaults rest).within (length_le_of_lt shorter)
    else .error (mismatch ("struct " ++ name) c rest)

-- A whole text: nothing but blanks may follow the value.
def readText {α : Type} (reader : Reader α) (text : String) : Except String α :=
  let chars := text.toList
  match reader chars with
  | .error failure => .error (failure.message chars)
  | .ok ⟨value, rest, _⟩ =>
    match skipBlanks rest with
    | [] => .ok value
    | left => .error ((Failure.peeked .trailingCharacters left).message chars)

end SyntaxHandles.Json
