import CrateDocs.Text.Utf8

namespace CrateDocs

/-!
# Base 64

Bytes can be written as text, with four characters of six bits each for three bytes. Marks fill
up the last group if it is not complete, and any other character may stand anywhere without
meaning anything.

* `Base64.sextet?` is the value of a character;
* `Base64.decode` reads bytes, which end with a group that is complete or filled up.
-/

namespace Base64

/-- The mark that fills up a group. -/
def filler : Char := '='

/-- The value of a character of the alphabet. -/
def sextet? (c : Char) : Option Nat :=
  if c.isUpper then some (c.toNat - 'A'.toNat)
  else if c.isLower then some (c.toNat - 'a'.toNat + 26)
  else if c.isDigit then some (c.toNat - '0'.toNat + 52)
  else if c = '+' then some 62
  else if c = '/' then some 63
  else none

/-- Reads on in a group of which `place` characters have been read. Of the last one, the bits
`held` are not written yet, and `marks` follow it. -/
def decodeFrom (place held marks : Nat) : Text → Option Bytes
  | [] => if place = 0 then some [] else none
  | c :: rest =>
    if c = filler then
      if place < 2 then decodeFrom place held marks rest
      else if 4 ≤ place + marks + 1 then some []
      else decodeFrom place held (marks + 1) rest
    else
      match sextet? c, place with
      | none, _ => decodeFrom place held marks rest
      | some n, 0 => decodeFrom 1 n 0 rest
      | some n, 1 => (decodeFrom 2 (n % 16) 0 rest).map ((4 * held + n / 16).toUInt8 :: ·)
      | some n, 2 => (decodeFrom 3 (n % 4) 0 rest).map ((16 * held + n / 4).toUInt8 :: ·)
      | some n, _ => (decodeFrom 0 0 0 rest).map ((64 * held + n).toUInt8 :: ·)

/-- The bytes that a text stands for. What follows a group that is filled up does not count. -/
def decode (t : Text) : Option Bytes := decodeFrom 0 0 0 t

end Base64

end CrateDocs
