import CrateDocs.Text.Basic

namespace CrateDocs

/-!
# Similar texts

How much two texts have in common is found by looking for the longest piece that stands in both,
and then for common pieces to the left and to the right of it.

* `Text.longestPiece` is the longest common piece, of several the first one;
* `Text.inCommon` counts the characters in all the common pieces;
* `Text.nearest` chooses the candidates that are similar to a word, the most similar ones if there
  are too many.
-/

namespace Text

/-- How many characters two texts start with alike. -/
def alike : Text → Text → Nat
  | a :: s, b :: t => if a = b then alike s t + 1 else 0
  | _, _ => 0

/-- A piece that two texts have in common: where it starts in each of them, and its length. -/
structure Piece where
  left : Nat
  right : Nat
  length : Nat
  deriving DecidableEq, Repr

/-- The longest common piece of two texts. Of several the one that starts first in `s` counts, and
of these the one that starts first in `t`. -/
def longestPiece (s t : Text) : Piece :=
  let starts := (List.range s.length).flatMap fun i => (List.range t.length).map fun j => (i, j)
  starts.foldl (fun best p =>
    let length := alike (s.drop p.1) (t.drop p.2)
    if best.length < length then ⟨p.1, p.2, length⟩ else best) ⟨0, 0, 0⟩

/-- Counts the characters in the common pieces, of which there are at most `fuel` beside each
other. -/
def inCommonWithin : Nat → Text → Text → Nat
  | 0, _, _ => 0
  | fuel + 1, s, t =>
    let p := longestPiece s t
    if p.length = 0 then 0
    else
      inCommonWithin fuel (s.take p.left) (t.take p.right) + p.length +
        inCommonWithin fuel (s.drop (p.left + p.length)) (t.drop (p.right + p.length))

/-- How many characters two texts have in common. -/
def inCommon (s t : Text) : Nat := inCommonWithin s.length s t

/-- How similar two texts are: the part of all their characters that they have in common, as a
numerator and a denominator. -/
def similarity (s t : Text) : Nat × Nat := (2 * inCommon s t, s.length + t.length)

/-- Whether three characters in five are in common. Texts of too different lengths need not be
looked into. -/
def isSimilar (s t : Text) : Bool :=
  if 10 * min s.length t.length < 3 * (s.length + t.length) then false
  else
    let (common, all) := similarity s t
    3 * all ≤ 5 * common

/-- Whether a candidate goes before another one: the more similar to the word, or else the later
one in the alphabet. -/
def goesBefore (word : Text) (s t : String) : Bool :=
  let (a, b) := similarity s.toList word
  let (c, d) := similarity t.toList word
  c * b < a * d || (c * b = a * d && t ≤ s)

/-- The candidates that are similar to a word, at most three, in the order of the alphabet. -/
def nearest (word : Text) (candidates : List String) : List String :=
  let similar := candidates.filter fun s => isSimilar s.toList word
  ((similar.mergeSort (goesBefore word)).take 3).mergeSort (· ≤ ·)

end Text

end CrateDocs
