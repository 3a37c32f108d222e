import CrateDocs.Text.Spelling

namespace CrateDocs

/-!
# Text without styles

What is printed may not be shown on a terminal, so the sequences that control one, by setting
colours and styles for instance, are left out: an escape and a bracket, parameters, marks between,
and a final character.

* `Style.strip` leaves them out.
-/

namespace Style

/-- The character that a sequence starts with. -/
def escape : Char := '\x1b'

/-- Whether `c` may stand among the parameters of a sequence: a digit or `:;<=>?`. -/
def isParameter (c : Char) : Bool := '0' ≤ c && c ≤ '?'

/-- Whether `c` may stand between the parameters and the final character: a space or one of the
marks before the digits. -/
def isBetween (c : Char) : Bool := ' ' ≤ c && c ≤ '/'

/-- Whether `c` may end a sequence: any other printable character of ASCII. -/
def isFinal (c : Char) : Bool := '@' ≤ c && c ≤ '~'

/-- A piece of text after an escape, without the rest of the sequence. An escape that starts none
stays. -/
def stripPiece (piece : Spelling) : Spelling :=
  match piece with
  | .char '[' :: rest =>
    match (rest.dropWhile (·.is isParameter)).dropWhile (·.is isBetween) with
    | p :: after => if p.is isFinal then after else .char escape :: piece
    | [] => .char escape :: piece
  | _ => .char escape :: piece

/-- `s` without the sequences that control a terminal. -/
def strip (s : Spelling) : Spelling :=
  match s.splitOn (.char escape) with
  | [] => []
  | first :: others => first ++ others.flatMap stripPiece

end Style

end CrateDocs
