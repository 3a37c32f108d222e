namespace CrateDocs

/-!
# Doubles

Numbers with a fraction count as the nearest double. A finite double is a multiple of the smallest
positive one, which is `2 ^ (-1074)`, so it is kept as an integer in that unit, and sums, products
and quotients are taken exactly before they are rounded.

* `Double` is a finite double;
* `Double.nearest` rounds a fraction. There is no double for one that is too large;
* `Double.add` and `Double.mul` are sum and product;
* `Double.toInt?` gives the integer that a double is.
-/

/-- A finite double, in units of `2 ^ (-1074)`. -/
structure Double where
  units : Int
  deriving DecidableEq, Repr

namespace Double

/-- How many units make up one. -/
def one : Nat := Nat.pow 2 1074

/-- How many units are too many. -/
def tooLarge : Nat := Nat.pow 2 (1024 + 1074)

/-- The integer nearest to a fraction, of two the even one. -/
def roundToEven (numerator denominator : Nat) : Nat :=
  let whole := numerator / denominator
  let rest := numerator % denominator
  if denominator < 2 * rest ∨ (denominator = 2 * rest ∧ whole % 2 = 1) then whole + 1 else whole

/-- How many units are nearest to a number of them that is a fraction, where 53 binary digits of
them count. -/
def roundUnits (numerator denominator : Nat) : Nat :=
  let digits := Nat.log2 (numerator / denominator) + 1
  let grain := Nat.pow 2 (digits - 53)
  roundToEven numerator (denominator * grain) * grain

/-- The double nearest to a fraction. -/
def nearest (negative : Bool) (numerator denominator : Nat) : Option Double :=
  let size := roundUnits (numerator * one) denominator
  if tooLarge ≤ size then none else some ⟨if negative then -(size : Int) else size⟩

/-- The double nearest to a number of units over a denominator. -/
def ofUnits (units : Int) (denominator : Nat) : Option Double :=
  nearest (units < 0) units.natAbs (denominator * one)

/-- The double nearest to an integer. -/
def ofNat (n : Nat) : Option Double := nearest false n 1

/-- The sum of two doubles, rounded. -/
def add (x y : Double) : Option Double := ofUnits (x.units + y.units) 1

/-- The product of two doubles, rounded. -/
def mul (x y : Double) : Option Double := ofUnits (x.units * y.units) one

/-- The double of the other sign. -/
def neg (x : Double) : Double := ⟨-x.units⟩

/-- The integer that a double is. -/
def toInt? (x : Double) : Option Int :=
  if x.units % one = 0 then some (x.units / one) else none

end Double

end CrateDocs
