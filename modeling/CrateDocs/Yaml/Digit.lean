import CrateDocs.Text.Basic

namespace CrateDocs.Yaml

/-!
# Digits

* `digitValue?` is the value of a digit in any base up to sixteen;
* `number?` is the number that digits spell in a base.
-/

/-- The value of a digit, where the letters up to `f` go on after nine. -/
def digitValue? (c : Char) : Option Nat :=
  if c.isDigit then some (c.toNat - '0'.toNat)
  else if 'a' ≤ c ∧ c ≤ 'f' then some (c.toNat - 'a'.toNat + 10)
  else if 'A' ≤ c ∧ c ≤ 'F' then some (c.toNat - 'A'.toNat + 10)
  else none

/-- Whether `c` is a digit in the given base. -/
def isDigitIn (base : Nat) (c : Char) : Bool := (digitValue? c).any (· < base)

/-- The number that the digits spell in the given base. No digits spell zero. -/
def number? (base : Nat) (digits : Text) : Option Nat :=
  digits.foldlM (fun n c => ((digitValue? c).filter (· < base)).map (base * n + ·)) 0

end CrateDocs.Yaml
