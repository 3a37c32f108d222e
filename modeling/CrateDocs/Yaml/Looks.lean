import CrateDocs.Yaml.Digit
import CrateDocs.Yaml.Timestamp

namespace CrateDocs.Yaml

/-!
# What scalars look like

A scalar without a tag is what it looks like.

* `Looks.isNull`, `Looks.isTruth`, `Looks.isReal`, `Looks.isInt` and `Looks.isTimestamp` tell the
  forms apart. They do not ask whether there is such a value.
-/

namespace Looks

/-- The words for nothing. -/
def nullWords : List String := ["", "~", "null", "Null", "NULL"]

/-- The words for true and false. -/
def truthWords : List String :=
  ["yes", "Yes", "YES", "true", "True", "TRUE", "on", "On", "ON",
    "no", "No", "NO", "false", "False", "FALSE", "off", "Off", "OFF"]

/-- The words for the infinities, after a sign. -/
def infinities : List String := [".inf", ".Inf", ".INF"]

/-- The words for what is no number. -/
def noNumbers : List String := [".nan", ".NaN", ".NAN"]

/-- A text without the sign that it may start with. -/
def withoutSign : Text → Text
  | '-' :: rest | '+' :: rest => rest
  | t => t

/-- Whether `t` holds digits of a base and underscores, at least one of them. -/
def areDigits (base : Nat) (t : Text) : Bool :=
  t ≠ [] && t.all fun c => isDigitIn base c || c = '_'

/-- Whether `t` is a digit, and after it digits and underscores. -/
def startsWithDigit (t : Text) : Bool := t.head?.any Char.isDigit && areDigits 10 t

/-- Whether `t` is a digit in base sixty: one or two digits below sixty. -/
def isSixtieth : Text → Bool
  | [c] => c.isDigit
  | [c, d] => '0' ≤ c && c ≤ '5' && d.isDigit
  | _ => false

/-- Whether `t` is a numeral that starts with a digit, perhaps in base sixty. -/
def isWhole (t : Text) : Bool :=
  match t.splitOn ':' with
  | [] => false
  | first :: others => startsWithDigit first && others.all isSixtieth

/-- Whether `t` has the form of an integer in base two, eight, ten, sixteen or sixty. -/
def isInt (t : Text) : Bool :=
  match withoutSign t with
  | ['0'] => true
  | '0' :: 'b' :: rest => areDigits 2 rest
  | '0' :: 'x' :: rest => areDigits 16 rest
  | '0' :: rest => areDigits 8 rest
  | t => isWhole t

/-- Whether `t` is nothing or an exponent, which has a sign. -/
def isExponent : Text → Bool
  | [] => true
  | e :: sign :: digits =>
    (e = 'e' || e = 'E') && (sign = '-' || sign = '+') && digits ≠ [] && digits.all Char.isDigit
  | _ => false

/-- Whether `t` has the form of a number with a point. Only one with digits before the point has a
sign, and only one in base ten an exponent. -/
def hasPoint (t : Text) : Bool :=
  let body := withoutSign t
  let whole := body.takeWhile (· ≠ '.')
  match body.dropWhile (· ≠ '.') with
  | [] => false
  | _ :: rest =>
    let digits := rest.takeWhile fun c => c.isDigit || c = '_'
    let tail := rest.dropWhile fun c => c.isDigit || c = '_'
    if whole = [] then body = t && startsWithDigit digits && isExponent tail
    else if ':' ∈ whole then isWhole whole && tail = []
    else startsWithDigit whole && isExponent tail

/-- Whether `t` is a word for nothing. -/
def isNull (t : Text) : Bool := t.asString ∈ nullWords

/-- Whether `t` is a word for a truth value. -/
def isTruth (t : Text) : Bool := t.asString ∈ truthWords

/-- Whether `t` has the form of a number with a point, an infinity or the word for no number. -/
def isReal (t : Text) : Bool :=
  (withoutSign t).asString ∈ infinities || t.asString ∈ noNumbers || hasPoint t

/-- Whether `t` has the form of a timestamp. A day alone has two digits for its month and two for
its day. -/
def isTimestamp (t : Text) : Bool :=
  (Timestamp.ofText? t).any fun stamp =>
    stamp.clock.isSome || t.length = "0000-00-00".length

end Looks

end CrateDocs.Yaml
