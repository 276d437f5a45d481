-- Sets of characters as ranges of code points.

namespace SyntaxHandles.Text

def isWithin (ranges : Array (Nat × Nat)) (c : Char) : Bool :=
  ranges.any fun (first, last) => first ≤ c.toNat && c.toNat ≤ last

-- Ranges of every character, or of every second one.
def isAmongSteps (ranges : Array (Nat × Nat × Nat)) (c : Char) : Bool :=
  ranges.any fun (first, last, step) =>
    first ≤ c.toNat && c.toNat ≤ last && (c.toNat - first) % step = 0

end SyntaxHandles.Text
