-- Parts of sequences: where they occur, how often, and what stands there instead. Occurrences do
-- not overlap. An empty part occurs before every element and at the end.

namespace SyntaxHandles.Sequence

variable {α : Type} [BEq α]

-- The first place at which a part occurs.
def find? (part : List α) : List α → Option Nat
  | [] => if part.isEmpty then some 0 else none
  | x :: rest =>
    if part.isPrefixOf (x :: rest) then some 0 else (find? part rest).map (· + 1)

-- The last place at which a part occurs.
def findLast? (part whole : List α) : Option Nat :=
  (find? part.reverse whole.reverse).map fun place => whole.length - part.length - place

def occurs (part whole : List α) : Bool :=
  (find? part whole).isSome

-- The pieces between the occurrences of a part that is not empty, at most so many of which count.
-- `skip` elements belong to an occurrence that was found.
def piecesFrom (part : List α) : (limit skip : Nat) → List α → List (List α)
  | _, _, [] => [[]]
  | limit, skip + 1, _ :: rest => piecesFrom part limit skip rest
  | 0, 0, x :: rest => [x :: rest]
  | limit + 1, 0, x :: rest =>
    if part.isPrefixOf (x :: rest) then [] :: piecesFrom part limit (part.length - 1) rest
    else match piecesFrom part (limit + 1) 0 rest with
      | piece :: pieces => (x :: piece) :: pieces
      | [] => [[x]]

def pieces (part whole : List α) (limit : Nat) : List (List α) :=
  piecesFrom part limit 0 whole

-- The same, counted from the end.
def piecesFromEnd (part whole : List α) (limit : Nat) : List (List α) :=
  ((pieces part.reverse whole.reverse limit).map List.reverse).reverse

def count (part whole : List α) : Nat :=
  if part.isEmpty then whole.length + 1 else (pieces part whole whole.length).length - 1

-- Puts something before the first so many elements and, if there are fewer, at the end.
def interleave (new : List α) : (limit : Nat) → List α → List α
  | 0, rest => rest
  | _ + 1, [] => new
  | limit + 1, x :: rest => new ++ x :: interleave new limit rest

def replace (old new whole : List α) (limit : Nat) : List α :=
  if old.isEmpty then interleave new limit whole
  else new.intercalate (pieces old whole limit)

-- What is before the first occurrence of a part, and what is behind it.
def cut? (part whole : List α) : Option (List α × List α) :=
  (find? part whole).map fun place => (whole.take place, whole.drop (place + part.length))

def cutLast? (part whole : List α) : Option (List α × List α) :=
  (findLast? part whole).map fun place => (whole.take place, whole.drop (place + part.length))

end SyntaxHandles.Sequence
