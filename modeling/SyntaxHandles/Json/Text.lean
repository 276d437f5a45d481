import SyntaxHandles.Json.Read

-- Strings: reading what stands between two quotes, and stepping over it when nobody asks for it.

namespace SyntaxHandles.Json

def hexValue? (c : Char) : Option Nat :=
  if '0' ≤ c ∧ c ≤ '9' then some (c.toNat - '0'.toNat)
  else if 'a' ≤ c ∧ c ≤ 'f' then some (c.toNat - 'a'.toNat + 10)
  else if 'A' ≤ c ∧ c ≤ 'F' then some (c.toNat - 'A'.toNat + 10)
  else none

-- Four bytes are taken at once, so a digit that is none is reported after all four, and a text that
-- ends before the fourth has ended inside the string.
def readCodeUnit : Reader Nat := fun s =>
  match s with
  | a :: b :: c :: d :: rest =>
    match hexValue? a, hexValue? b, hexValue? c, hexValue? d with
    | some i, some j, some k, some l =>
      .ok ⟨((i * 16 + j) * 16 + k) * 16 + l, rest, by simp; omega⟩
    | _, _, _, _ => .error ⟨.invalidEscape, s, 4⟩
  | _ => if byteSize s < 4 then .error (.at .endInString []) else .error ⟨.invalidEscape, s, 4⟩

def isLeading (unit : Nat) : Bool := 0xd800 ≤ unit && unit ≤ 0xdbff

def isTrailing (unit : Nat) : Bool := 0xdc00 ≤ unit && unit ≤ 0xdfff

-- The second half of a surrogate pair, itself an escape.
def readTrailing (leading : Nat) : Reader Char := fun s =>
  match s with
  | [] => .error (.at .endInString [])
  | '\\' :: [] => .error (.at .endInString [])
  | '\\' :: 'u' :: rest =>
    match readCodeUnit rest with
    | .error failure => .error failure
    | .ok ⟨unit, rest', shorter⟩ =>
      if isTrailing unit then
        .ok ⟨Char.ofNat ((leading - 0xd800) * 0x400 + (unit - 0xdc00) + 0x10000), rest',
          by simp; omega⟩
      else .error (.at .loneSurrogate rest')
  | '\\' :: rest => .error (.peeked .unfinishedSurrogatePair rest)
  | _ => .error (.peeked .unfinishedSurrogatePair s)

def readUnicodeEscape : Reader Char := fun s =>
  match readCodeUnit s with
  | .error failure => .error failure
  | .ok ⟨unit, rest, shorter⟩ =>
    if isTrailing unit then .error (.at .loneSurrogate rest)
    else if isLeading unit then (readTrailing unit rest).within (length_le_of_lt shorter)
    else .ok ⟨Char.ofNat unit, rest, shorter⟩

-- The character that a letter after a backslash stands for.
def plainEscape? (letter : Char) : Option Char :=
  if letter = '"' ∨ letter = '\\' ∨ letter = '/' then some letter
  else if letter = 'b' then some '\x08'
  else if letter = 'f' then some '\x0c'
  else if letter = 'n' then some '\n'
  else if letter = 'r' then some '\r'
  else if letter = 't' then some '\t'
  else none

-- What follows a backslash.
def readEscape : Reader Char := fun s =>
  match s with
  | [] => .error (.at .endInString [])
  | letter :: rest =>
    if letter = 'u' then (readUnicodeEscape rest).within (length_le_cons letter rest)
    else
      match plainEscape? letter with
      | some c => .ok ⟨c, rest, length_lt_cons letter rest⟩
      | none => .error (.peeked .invalidEscape s)

-- What follows an opening quote, up to and with the closing one.
def readContent : Reader (List Char)
  | [] => .error (.at .endInString [])
  | c :: rest =>
    if c = '"' then .ok ⟨[], rest, length_lt_cons c rest⟩
    else if c = '\\' then
      match readEscape rest with
      | .error failure => .error failure
      | .ok ⟨d, rest', shorter⟩ =>
        ((readContent rest').map (d :: ·)).within (length_le_cons_of_lt c shorter)
    else if c.toNat < 0x20 then .error (.at .controlCharacter rest)
    else ((readContent rest).map (c :: ·)).within (length_le_cons c rest)
termination_by s => s.length

-- An escape in a string that is skipped has to be well formed, but need not name a character.
def skipEscape : Reader Unit := fun s =>
  match s with
  | [] => .error (.at .endInString [])
  | letter :: rest =>
    if letter = 'u' then ((readCodeUnit rest).map fun _ => ()).within (length_le_cons letter rest)
    else if (plainEscape? letter).isSome then .ok ⟨(), rest, length_lt_cons letter rest⟩
    else .error (.peeked .invalidEscape s)

def skipContent : Reader Unit
  | [] => .error (.at .endInString [])
  | c :: rest =>
    if c = '"' then .ok ⟨(), rest, length_lt_cons c rest⟩
    else if c = '\\' then
      match skipEscape rest with
      | .error failure => .error failure
      | .ok ⟨(), rest', shorter⟩ => (skipContent rest').within (length_le_cons_of_lt c shorter)
    else if c.toNat < 0x20 then .error (.at .controlCharacter (c :: rest))
    else (skipContent rest).within (length_le_cons c rest)
termination_by s => s.length

end SyntaxHandles.Json
