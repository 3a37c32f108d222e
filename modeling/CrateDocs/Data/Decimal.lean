import CrateDocs.Data.Double

namespace CrateDocs

/-!
# Decimal numbers

A number in decimal notation is a mantissa and a power of ten.

* `Decimal` is such a number;
* `Decimal.toDouble?` is the nearest double. Beyond the largest double there is none.
-/

/-- The number `mantissa * 10 ^ exponent`. -/
structure Decimal where
  mantissa : Int
  exponent : Int
  deriving DecidableEq, Repr

namespace Decimal

/-- How many places the first digit stands left of the point. -/
def magnitude (d : Decimal) : Int := (Nat.toDigits 10 d.mantissa.natAbs).length + d.exponent

/-- The nearest double. Numbers below `10 ^ (-400)` in size are nearest to zero, and there is none
for those of `10 ^ 400` and more, so powers of ten in between are all that is worked out. -/
def toDouble? (d : Decimal) : Option Double :=
  if d.mantissa = 0 ∨ d.magnitude < -400 then some ⟨0⟩
  else if 400 < d.magnitude then none
  else
    Double.nearest (d.mantissa < 0) (d.mantissa.natAbs * Nat.pow 10 d.exponent.toNat)
      (Nat.pow 10 (-d.exponent).toNat)

end Decimal

end CrateDocs
