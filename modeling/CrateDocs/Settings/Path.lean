import CrateDocs.Text.Basic

namespace CrateDocs

/-!
# Paths of settings

The path of a file of settings is put into a plain form: without empty steps and without steps
that stay where they are. A step at its start that begins with `~` is a home directory: `~` is that
of the user who runs the program, and `~name` that of another one.

* `Path` is a path in that form, `Path.ofText` and `Path.toText` go there and back;
* `Path.user?` is whose home directory stands at the start of a path, and `Path.under?` puts the
  home directory there.
-/

/-- The slashes at the start of a path and its steps. Two slashes are kept, more count as one. -/
structure Path where
  slashes : Nat
  steps : List Text
  deriving DecidableEq, Repr

namespace Path

/-- The plain form of a path. -/
def ofText (t : Text) : Path :=
  let slashes := (t.takeWhile (· = '/')).length
  { slashes := if slashes ≤ 2 then slashes else 1
    steps := (t.splitOn '/').filter fun step => step ≠ [] && step ≠ ['.'] }

/-- The path as text. -/
def toText (p : Path) : Text :=
  if p.slashes = 0 ∧ p.steps = [] then ['.']
  else List.replicate p.slashes '/' ++ ['/'].intercalate p.steps

/-- Whose home directory stands at the start of the path, if one does: that of a user with a name,
or that of the user who runs the program. -/
def user? (p : Path) : Option (Option Text) :=
  match p.slashes, p.steps with
  | 0, ('~' :: name) :: _ => some (if name = [] then none else some name)
  | _, _ => none

/-- A home directory without slashes at its end. It is the root if nothing else is left. -/
def trimHome (home : Text) : Text :=
  let home := (home.reverse.dropWhile (· = '/')).reverse
  if home = [] then ['/'] else home

/-- The path with a home directory in place of its first step. There is none if the home directory
starts with a `~` itself. -/
def under? (p : Path) (home : Text) : Option Path :=
  if (trimHome home).head? = some '~' then none
  else
    let base := ofText (trimHome home)
    some { base with steps := base.steps ++ p.steps.drop 1 }

theorem under?_eq_none_iff {p : Path} {home : Text} :
    p.under? home = none ↔ (trimHome home).head? = some '~' := by
  rw [under?]
  split <;> simp_all

end Path

end CrateDocs
