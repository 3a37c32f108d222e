import CrateDocs.Text.Basic

namespace CrateDocs

/-!
# Addresses of a package's documentation

The documentation of all packages stands on one host, under the name of the package.

* `Url.remainder?` is what follows the host and the package in an address;
* `Url.isOfPackage` tells the addresses that have such a remainder;
* `Url.splitFragment?` cuts a remainder into a path and a fragment;
* `Url.steps?` cuts a path into its steps.
-/

namespace Url

/-- Where the documentation of all packages stands. -/
def host : Text := "https://docs.rs/".toList

/-- Whether a package name ends before `rest`: at the end, at a step or at a fragment. -/
def endsPackage : Text → Bool
  | [] => true
  | c :: _ => c = '/' || c = '#'

/-- What follows the host and exactly this package in `url`. -/
def remainder? (package url : Text) : Option Text :=
  (Text.after? (host ++ package) url).filter endsPackage

/-- Whether `url` is an address of the package's documentation. -/
def isOfPackage (package url : Text) : Bool := (remainder? package url).isSome

/-- Cuts `t` at its first `#`. A fragment must be there if the `#` is, and is one line. -/
def splitFragment? (t : Text) : Option (Text × Option Text) :=
  match t.dropWhile (· ≠ '#') with
  | [] => some (t, none)
  | _ :: fragment =>
    if fragment = [] ∨ '\n' ∈ fragment then none
    else some (t.takeWhile (· ≠ '#'), some fragment)

/-- The steps of a path, each of which follows a `/`. -/
def steps? : Text → Option (List Text)
  | '/' :: rest => some (rest.splitOn '/')
  | _ => none

theorem remainder?_eq_some_iff {package url rest : Text} :
    remainder? package url = some rest ↔
      url = host ++ package ++ rest ∧ endsPackage rest = true := by
  simp [remainder?, Option.filter_eq_some_iff, Text.after?_eq_some_iff]

end Url

end CrateDocs
