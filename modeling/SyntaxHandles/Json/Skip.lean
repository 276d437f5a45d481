import SyntaxHandles.Json.Number
import SyntaxHandles.Json.Text

-- Stepping over a value of any shape and nesting, for a field that nobody asks for. Only the
-- grammar is checked.

namespace SyntaxHandles.Json

def skipWord (word : List Char) (c : Char) (rest : List Char) : Attempt Unit (c :: rest) :=
  match readWord word rest with
  | .error failure => .error failure
  | .ok ⟨rest', shorter⟩ => .ok ⟨(), rest', length_lt_cons_of_le c shorter⟩

-- A colon stands between a key and its value.
def skipColon : Reader Unit := fun s =>
  match h : skipBlanks s with
  | [] => .error (.at .endInObject [])
  | c :: rest =>
    if c = ':' then .ok ⟨(), rest, length_lt_of_skipBlanks h⟩
    else .error (.peeked .expectedColon (c :: rest))

def skipKey : Reader Unit := fun s =>
  match h : skipBlanks s with
  | [] => .error (.at .endInObject [])
  | c :: rest =>
    have shorter : rest.length < s.length := length_lt_of_skipBlanks h
    if c = '"' then (skipContent rest).within (length_le_of_lt shorter)
    else .error (.peeked .keyNotString (c :: rest))

mutual

def skipValue (s : List Char) : Attempt Unit s :=
  match h : skipBlanks s with
  | [] => .error (.at .endInValue [])
  | c :: rest =>
    have shorter : rest.length < s.length := length_lt_of_skipBlanks h
    if c = 'n' then (skipWord ['u', 'l', 'l'] c rest).within shorter
    else if c = 't' then (skipWord ['r', 'u', 'e'] c rest).within shorter
    else if c = 'f' then (skipWord ['a', 'l', 's', 'e'] c rest).within shorter
    else if c = '-' then (skipNumber rest).within (length_le_of_lt shorter)
    else if c.isDigit then (skipNumber (c :: rest)).within shorter
    else if c = '"' then (skipContent rest).within (length_le_of_lt shorter)
    else if c = '[' then
      match h' : skipBlanks rest with
      | [] => .error (.at .endInList [])
      | d :: after =>
        have shorter' : after.length < rest.length := length_lt_of_skipBlanks h'
        if d = ']' then .ok ⟨(), after, length_lt_of_lt_of_lt shorter' shorter⟩
        else (skipElements rest).within (length_le_of_lt shorter)
    else if c = '\x7b' then
      match h' : skipBlanks rest with
      | [] => .error (.at .endInObject [])
      | d :: after =>
        have shorter' : after.length < rest.length := length_lt_of_skipBlanks h'
        if d = '\x7d' then .ok ⟨(), after, length_lt_of_lt_of_lt shorter' shorter⟩
        else (skipMembers rest).within (length_le_of_lt shorter)
    else .error (.peeked .expectedValue (c :: rest))
termination_by (s.length, 0)

-- At least one element, up to and with the end of the list.
def skipElements (s : List Char) : Attempt Unit s :=
  match skipValue s with
  | .error failure => .error failure
  | .ok ⟨(), s', shorter⟩ =>
    match h : skipBlanks s' with
    | [] => .error (.at .endInList [])
    | c :: rest =>
      have shorter' : rest.length < s'.length := length_lt_of_skipBlanks h
      have shorter'' : rest.length < s.length := length_lt_of_lt_of_lt shorter' shorter
      if c = ']' then .ok ⟨(), rest, shorter''⟩
      else if c = ',' then (skipElements rest).within (length_le_of_lt shorter'')
      else .error (.peeked .expectedListCommaOrEnd (c :: rest))
termination_by (s.length, 1)

-- At least one member, up to and with the end of the object.
def skipMembers (s : List Char) : Attempt Unit s :=
  match Attempt.andThen (skipKey s) fun () => skipColon with
  | .error failure => .error failure
  | .ok ⟨(), start, shorter⟩ =>
    match skipValue start with
    | .error failure => .error failure
    | .ok ⟨(), s', shorter'⟩ =>
      match h : skipBlanks s' with
      | [] => .error (.at .endInObject [])
      | c :: rest =>
        have shorter'' : rest.length < s.length := by
          have := length_lt_of_skipBlanks h
          omega
        if c = '\x7d' then .ok ⟨(), rest, shorter''⟩
        else if c = ',' then (skipMembers rest).within (length_le_of_lt shorter'')
        else .error (.peeked .expectedObjectCommaOrEnd (c :: rest))
termination_by (s.length, 1)

end

end SyntaxHandles.Json
