import CrateDocs.Text.Basic

namespace CrateDocs

/-!
# Lines of a document

A document is cut into lines at its line feeds. A carriage return right before the line feed
belongs to the ending; any other one belongs to the line.

* `Ending` is how a line ends;
* `Line` is the body of a line with its ending, and `Line.raw` both together;
* `Line.ofText` cuts a document into its lines.
-/

/-- How a line ends. -/
inductive Ending
  /-- with the document -/
  | none
  /-- with a line feed -/
  | lf
  /-- with a carriage return and a line feed -/
  | crlf
  deriving DecidableEq, Repr

/-- The ending as it stands in the document. -/
def Ending.raw : Ending → Text
  | none => []
  | lf => ['\n']
  | crlf => ['\r', '\n']

/-- A line without its ending, and the ending. -/
structure Line where
  body : Text
  ending : Ending
  deriving DecidableEq, Repr

namespace Line

/-- The line as it stands in the document. -/
def raw (l : Line) : Text := l.body ++ l.ending.raw

/-- The line of a piece that a line feed follows. -/
def terminated (piece : Text) : Line :=
  if piece.getLast? = some '\r' then ⟨piece.dropLast, .crlf⟩ else ⟨piece, .lf⟩

/-- The lines of the pieces between the line feeds. The last piece is a line of its own unless it
is empty. -/
def ofPieces : List Text → List Line
  | [] => []
  | [last] => if last = [] then [] else [⟨last, .none⟩]
  | piece :: rest => terminated piece :: ofPieces rest

/-- The lines of a document. -/
def ofText (t : Text) : List Line := ofPieces (t.splitOn '\n')

@[simp] theorem ofText_nil : ofText [] = [] := rfl

/-- A piece and the line feed after it are the line made of it. -/
theorem raw_terminated (piece : Text) : (terminated piece).raw = piece ++ ['\n'] := by
  unfold terminated
  split
  case isTrue h =>
    have hne : piece ≠ [] := by
      rintro rfl
      simp at h
    have hlast : piece.getLast hne = '\r' := by
      simpa [List.getLast?_eq_some_getLast hne] using h
    calc piece.dropLast ++ ['\r', '\n']
        = (piece.dropLast ++ [piece.getLast hne]) ++ ['\n'] := by simp [hlast]
      _ = piece ++ ['\n'] := by rw [List.dropLast_concat_getLast hne]
  case isFalse => rfl

end Line

end CrateDocs
