-- Reading bytes that should be UTF-8 but need not be. Nothing is refused: each longest run of bytes
-- that starts a character and does not finish it becomes one replacement character.

namespace SyntaxHandles.Text

def replacement : Char := Char.ofNat 0xfffd

-- What a leading byte asks for: how many bytes follow it, and the bounds of the first of them. The
-- bounds rule out overlong forms, surrogates, and everything above the last code point. No byte
-- may follow one that cannot lead.
private def follow (lead : Nat) : Nat × Nat × Nat :=
  if 0xc2 ≤ lead ∧ lead ≤ 0xdf then (1, 0x80, 0xbf)
  else if lead = 0xe0 then (2, 0xa0, 0xbf)
  else if lead = 0xed then (2, 0x80, 0x9f)
  else if 0xe1 ≤ lead ∧ lead ≤ 0xef then (2, 0x80, 0xbf)
  else if lead = 0xf0 then (3, 0x90, 0xbf)
  else if 0xf1 ≤ lead ∧ lead ≤ 0xf3 then (3, 0x80, 0xbf)
  else if lead = 0xf4 then (3, 0x80, 0x8f)
  else (0, 0, 0)

private def tails : Nat → Nat → Nat → List UInt8 → List Nat
  | n + 1, low, high, byte :: rest =>
    if low ≤ byte.toNat ∧ byte.toNat ≤ high then byte.toNat :: tails n 0x80 0xbf rest else []
  | _, _, _, _ => []

-- A character, or bytes that are none.
inductive Piece
  | char (c : Char)
  | broken (bytes : List UInt8)

-- What is at the front, and how many of the bytes after the leading one belong to it.
private def front (lead : UInt8) (rest : List UInt8) : Piece × Nat :=
  if lead < 0x80 then (.char (Char.ofNat lead.toNat), 0)
  else
    let (owed, low, high) := follow lead.toNat
    let found := tails owed low high rest
    if owed = 0 ∨ found.length < owed then
      (.broken (lead :: rest.take found.length), found.length)
    else
      let start := lead.toNat % 1 <<< (6 - owed)
      (.char (Char.ofNat (found.foldl (fun code byte => code * 64 + byte % 64) start)), owed)

def pieces : List UInt8 → List Piece
  | [] => []
  | lead :: rest =>
    let (piece, taken) := front lead rest
    piece :: pieces (rest.drop taken)
termination_by bytes => bytes.length
decreasing_by simp only [List.length_drop, List.length_cons]; omega

def Piece.orReplacement : Piece → Char
  | char c => c
  | broken _ => replacement

def decodeChars (bytes : List UInt8) : List Char :=
  (pieces bytes).map Piece.orReplacement

def decode (bytes : List UInt8) : String :=
  String.ofList (decodeChars bytes)

end SyntaxHandles.Text
