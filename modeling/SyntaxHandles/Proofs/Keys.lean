import Mathlib.Data.List.Nodup
import Mathlib.Data.List.Range

-- Things that are kept under the numbers below a bound.

namespace SyntaxHandles

-- One of the numbers is put before all others.
theorem perm_range {key bound : Nat} (h : key < bound) :
    (List.range bound).Perm (key :: (List.range bound).filter (· != key)) := by
  have hp := List.perm_cons_erase (List.mem_range.mpr h)
  rwa [List.nodup_range.erase_eq_filter] at hp

end SyntaxHandles
