-- Elements at the ends of sequences, and what is split off where there are such elements.

namespace SyntaxHandles.Sequence

variable {α : Type}

def trimStart (isLoose : α → Bool) (whole : List α) : List α :=
  whole.dropWhile isLoose

def trimEnd (isLoose : α → Bool) (whole : List α) : List α :=
  (whole.reverse.dropWhile isLoose).reverse

def trim (isLoose : α → Bool) (whole : List α) : List α :=
  trimEnd isLoose (trimStart isLoose whole)

-- The words between loose elements. After so many words, the rest is one word as it is.
def words (isLoose : α → Bool) : (limit : Nat) → List α → List (List α)
  | 0, whole =>
    let rest := trimStart isLoose whole
    if rest.isEmpty then [] else [rest]
  | limit + 1, whole =>
    let (word, rest) := (trimStart isLoose whole).span fun x => !isLoose x
    if word.isEmpty then [] else word :: words isLoose limit rest

-- The same, counted from the end.
def wordsFromEnd (isLoose : α → Bool) (limit : Nat) (whole : List α) : List (List α) :=
  ((words isLoose limit whole.reverse).map List.reverse).reverse

-- Lines with what ends them. Only a return that a line feed follows belongs to the same end.
def lines (isEnd isReturn isFeed : α → Bool) : List α → List (List α × List α)
  | [] => []
  | x :: rest =>
    if isReturn x && (rest.head?.map isFeed).getD false then
      match rest with
      | feed :: rest => ([], [x, feed]) :: lines isEnd isReturn isFeed rest
      | [] => [([], [x])]
    else if isEnd x then ([], [x]) :: lines isEnd isReturn isFeed rest
    else match lines isEnd isReturn isFeed rest with
      | (line, ending) :: others => (x :: line, ending) :: others
      | [] => [([x], [])]

end SyntaxHandles.Sequence
