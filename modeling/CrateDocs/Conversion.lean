import CrateDocs.Markdown.Fence
import CrateDocs.Markdown.Header
import CrateDocs.Markdown.Line
import CrateDocs.Policy

namespace CrateDocs

/-!
# Conversion of a document

A document is converted line by line. Code stays as it is; the top-level header and the blank
line after it are left out; every other header moves one level up; links to the package become
links within the crate.

* `Position` is what a line has to know of the lines before it, and `Position.next` passes it on;
* `Position.role` says what a line is at its position;
* `Policy.convertLine` converts a line by its role;
* `Policy.convert` converts a document.
-/

/-- What a line has to know of the lines before it. -/
structure Position where
  /-- how many lines there are up to this one -/
  number : Nat := 1
  /-- whether a code block is open -/
  inBlock : Bool := false
  /-- whether the line before is a top-level header -/
  afterTitle : Bool := false
  /-- whether there was a header before -/
  seenHeader : Bool := false
  deriving DecidableEq, Repr

/-- What a line is. -/
inductive Role
  /-- code -/
  | verbatim
  /-- the blank line after a top-level header -/
  | gap
  /-- a top-level header -/
  | title
  /-- any other header -/
  | header
  /-- a line of text -/
  | text
  deriving DecidableEq, Repr

namespace Position

/-- What the line `body` is at a position. -/
def role (p : Position) (body : Text) : Role :=
  if Fence.isVerbatim p.inBlock body then .verbatim
  else if p.afterTitle && Text.isAllBlank body then .gap
  else
    match Header.depth? body with
    | none => .text
    | some 1 => .title
    | some _ => .header

/-- A header that is not left out moves up by a `#`. -/
theorem demote_of_role_eq_header {p : Position} {body : Text} (h : p.role body = .header) :
    Header.demote body = some body.tail := by
  unfold role at h
  split at h
  case isTrue => cases h
  split at h
  case isTrue => cases h
  cases hdepth : Header.depth? body with
  | none =>
    rw [hdepth] at h
    cases h
  | some depth =>
    rw [hdepth] at h
    rcases depth with _ | _ | depth
    · exact absurd hdepth (Header.depth?_ne_zero body)
    · cases h
    · exact Header.demote_of_depth? hdepth

/-- The position of the line after `body`. -/
def next (p : Position) (body : Text) : Position where
  number := p.number + 1
  inBlock := Fence.opensAfter p.inBlock body
  afterTitle := p.role body = .title
  seenHeader := p.seenHeader || p.role body = .title || p.role body = .header

end Position

namespace Policy

/-- Converts a line at a position. -/
def convertLine (p : Policy) (here : Position) (l : Line) : Report Text :=
  match here.role l.body with
  | .verbatim => pure l.raw
  | .gap => pure []
  | .title =>
    if here.seenHeader && p.strict then Report.refuse here.number l.body .repeatedTitle
    else do
      Report.tell (.titleDropped here.number l.body)
      pure []
  | .header => pure ((Header.demote l.body).elim [] (· ++ l.ending.raw))
  | .text => do
    let body ← p.relink here.number l.body
    pure (body ++ l.ending.raw)

/-- Converts lines from a position on. -/
def convertLines (p : Policy) : Position → List Line → Report Text
  | _, [] => pure []
  | here, l :: rest => do
    let first ← p.convertLine here l
    let others ← p.convertLines (here.next l.body) rest
    pure (first ++ others)

/-- Converts a document. -/
def convert (p : Policy) (content : Text) : Report Text := p.convertLines {} (Line.ofText content)

end Policy

end CrateDocs
