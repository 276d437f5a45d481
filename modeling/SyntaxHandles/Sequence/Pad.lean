-- Sequences made as long as wanted. What is long enough stays as it is.

namespace SyntaxHandles.Sequence

variable {α : Type}

def padEnd (width : Int) (fill : α) (whole : List α) : List α :=
  whole ++ List.replicate (width - whole.length).toNat fill

def padStart (width : Int) (fill : α) (whole : List α) : List α :=
  List.replicate (width - whole.length).toNat fill ++ whole

-- An odd element of the margin goes to the left where the width is odd too.
def padBoth (width : Int) (fill : α) (whole : List α) : List α :=
  let margin := (width - whole.length).toNat
  let left := margin / 2 + (if margin % 2 = 1 ∧ width % 2 = 1 then 1 else 0)
  List.replicate left fill ++ whole ++ List.replicate (margin - left) fill

-- Fills behind a sign.
def padDigits (width : Int) (isSign : α → Bool) (zero : α) : List α → List α
  | [] => List.replicate width.toNat zero
  | x :: rest =>
    if isSign x then x :: padStart (width - 1) zero rest else padStart width zero (x :: rest)

-- Goes on to the next multiple of a size for each tab. A line begins anew behind its end.
def expandTabs (size : Int) (isTab isLineEnd : α → Bool) (space : α) : (column : Nat) → List α →
    List α
  | _, [] => []
  | column, x :: rest =>
    if isTab x then
      let width := if 0 < size then size.toNat - column % size.toNat else 0
      List.replicate width space ++ expandTabs size isTab isLineEnd space (column + width) rest
    else
      x :: expandTabs size isTab isLineEnd space (if isLineEnd x then 0 else column + 1) rest

-- The same sequence so many times.
def repeated (count : Int) (whole : List α) : List α :=
  (List.replicate count.toNat whole).flatten

end SyntaxHandles.Sequence
