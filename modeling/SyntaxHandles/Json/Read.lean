import SyntaxHandles.Json.Failure

-- Readers: each takes a value off the front of a text and leaves a shorter one, so that a reader
-- that repeats another one ends.

namespace SyntaxHandles.Json

-- How the lengths of texts compare when one is what is left of the other.
theorem length_le_refl (s : List Char) : s.length ≤ s.length :=
  Nat.le_refl _

theorem length_le_of_lt {s t : List Char} (h : s.length < t.length) : s.length ≤ t.length :=
  Nat.le_of_lt h

theorem length_le_of_lt_of_le {s t u : List Char} (h : s.length < t.length)
    (h' : t.length ≤ u.length) : s.length ≤ u.length :=
  Nat.le_of_lt (Nat.lt_of_lt_of_le h h')

theorem length_lt_of_lt_of_lt {s t u : List Char} (h : s.length < t.length)
    (h' : t.length < u.length) : s.length < u.length :=
  Nat.lt_trans h h'

theorem length_lt_cons (c : Char) (s : List Char) : s.length < (c :: s).length :=
  Nat.lt_succ_self _

theorem length_le_cons (c : Char) (s : List Char) : s.length ≤ (c :: s).length :=
  Nat.le_succ _

theorem length_lt_cons_of_le {s t : List Char} (c : Char) (h : s.length ≤ t.length) :
    s.length < (c :: t).length :=
  Nat.lt_succ_of_le h

theorem length_le_cons_of_lt {s t : List Char} (c : Char) (h : s.length < t.length) :
    s.length ≤ (c :: t).length :=
  Nat.le_succ_of_le (Nat.le_of_lt h)

structure Read (α : Type) (s : List Char) where
  value : α
  rest : List Char
  shorter : rest.length < s.length

abbrev Attempt (α : Type) (s : List Char) : Type :=
  Except Failure (Read α s)

abbrev Reader (α : Type) : Type :=
  (s : List Char) → Attempt α s

variable {α β : Type} {s t : List Char}

-- What was read of a text was read of every longer one as well.
def Read.within (read : Read α t) (h : t.length ≤ s.length) : Read α s :=
  ⟨read.value, read.rest, Nat.lt_of_lt_of_le read.shorter h⟩

def Read.map (f : α → β) (read : Read α s) : Read β s :=
  ⟨f read.value, read.rest, read.shorter⟩

def Attempt.within (attempt : Attempt α t) (h : t.length ≤ s.length) : Attempt α s :=
  Except.map (·.within h) attempt

def Attempt.map (f : α → β) (attempt : Attempt α s) : Attempt β s :=
  Except.map (·.map f) attempt

-- Reads what comes next with a reader that may depend on the value before it.
def Attempt.andThen (attempt : Attempt α s) (next : α → Reader β) : Attempt β s :=
  match attempt with
  | .error failure => .error failure
  | .ok read => Attempt.within (next read.value read.rest) (Nat.le_of_lt read.shorter)

def isBlank (c : Char) : Bool :=
  c == ' ' || c == '\n' || c == '\t' || c == '\r'

def skipBlanks (s : List Char) : List Char :=
  s.dropWhile isBlank

theorem length_skipBlanks_le (s : List Char) : (skipBlanks s).length ≤ s.length :=
  (List.dropWhile_sublist isBlank).length_le

theorem length_lt_of_skipBlanks {s rest : List Char} {c : Char} (h : skipBlanks s = c :: rest) :
    rest.length < s.length := by
  have := length_skipBlanks_le s
  simp only [h, List.length_cons] at this
  omega

-- Reads the letters of a word one by one; the first that differs is the offending one.
def readWord :
    List Char → (s : List Char) → Except Failure { rest : List Char // rest.length ≤ s.length }
  | [], s => .ok ⟨s, length_le_refl s⟩
  | _ :: _, [] => .error (.at .endInValue [])
  | letter :: word, c :: rest =>
    if c = letter then
      (readWord word rest).map fun found => ⟨found.1, Nat.le_succ_of_le found.2⟩
    else .error (.peeked .expectedIdent (c :: rest))

end SyntaxHandles.Json
