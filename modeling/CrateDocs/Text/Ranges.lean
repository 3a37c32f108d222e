namespace CrateDocs

/-!
# Ranges of code points

A character class of a standard is written as the list of its ranges, in ascending order.

* `Ranges` is such a list of first and last code points;
* `Ranges.contains` looks a character up, and stops at the first range beyond it.
-/

/-- The first and last code points of the ranges of a class, in ascending order. -/
abbrev Ranges := List (Nat × Nat)

namespace Ranges

/-- Whether the code point of `c` lies in one of the ranges. -/
def contains : Ranges → Char → Bool
  | [], _ => false
  | (first, last) :: rest, c =>
    if c.toNat < first then false
    else if c.toNat ≤ last then true
    else contains rest c

end Ranges

end CrateDocs
