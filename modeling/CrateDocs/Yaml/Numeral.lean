import CrateDocs.Data.Value
import CrateDocs.Text.Blank
import CrateDocs.Text.Digit
import CrateDocs.Text.LowerCase
import CrateDocs.Yaml.Digit
import CrateDocs.Yaml.Fault

namespace CrateDocs.Yaml

/-!
# Numerals

Integers are written in base two, eight, ten, sixteen or sixty, and other numbers in base ten or
sixty, with underscores wherever one likes. White space around a numeral does not count, and its
digits may be those of any script.

* `Numeral.int` reads an integer, and `Numeral.real` another number. A scalar that is said to be a
  number need not be one.
-/

namespace Numeral

/-- Cuts a sign off, and tells whether it is a minus. -/
def cutSign : Text → Bool × Text
  | '-' :: rest => (true, rest)
  | '+' :: rest => (false, rest)
  | t => (false, t)

/-- Cuts a sign off a spelling, and tells whether it is a minus. -/
def cutSpelledSign : Spelling → Bool × Spelling
  | .char '-' :: rest => (true, rest)
  | .char '+' :: rest => (false, rest)
  | s => (false, s)

/-- A numeral without underscores. -/
def withoutUnderscores (s : Spelling) : Spelling := s.filter (· ≠ .char '_')

/-- Whether `c` is white space around a numeral. -/
def isSpace (c : Char) : Bool :=
  if c.toNat < 0x80 then c = ' ' || (0x9 ≤ c.toNat && c.toNat ≤ 0xd) else Text.isBlank c

/-- A numeral in the digits of ASCII, without the white space around it. A half of a surrogate
pair is no digit, and neither is the character that replaces it. -/
def bare (s : Spelling) : Text :=
  Text.westernDigits ((s.shown.dropWhile isSpace).reverse.dropWhile isSpace).reverse

/-- The letter that may follow a zero before the digits in a base. -/
def baseLetter? : Nat → Option Char
  | 2 => some 'b'
  | 8 => some 'o'
  | 16 => some 'x'
  | _ => none

/-- Cuts the mark of a base off. -/
def cutMark (base : Nat) : Text → Text
  | '0' :: c :: rest => if some c.toLower = baseLetter? base then rest else '0' :: c :: rest
  | t => t

/-- Reads an integer in a base. -/
def intIn (base : Nat) (s : Spelling) : Except Impossible Int :=
  let (negative, body) := cutSign (bare s)
  let digits := cutMark base body
  let count := (digits.takeWhile (isDigitIn base)).length
  if base = 10 ∧ Impossible.digitLimit < count then .error (.tooManyDigits count)
  else
    match digits, number? base digits with
    | _ :: _, some n => .ok (if negative then -(n : Int) else n)
    | _, _ => .error (.noInteger base s)

/-- What stands between the colons of a numeral in base sixty. -/
def sixtieths (s : Spelling) : List Spelling := s.splitOn (.char ':')

/-- Reads an integer after its sign. -/
def intBody : Spelling → Except Impossible Int
  | [] => .error .emptyNumeral
  | [.char '0'] => .ok 0
  | .char '0' :: .char 'b' :: rest => intIn 2 rest
  | .char '0' :: .char 'x' :: rest => intIn 16 rest
  | .char '0' :: rest => intIn 8 (.char '0' :: rest)
  | s =>
    if .char ':' ∈ s then do
      let digits ← (sixtieths s).mapM (intIn 10)
      .ok (digits.foldl (fun n d => 60 * n + d) 0)
    else intIn 10 s

/-- Reads an integer. -/
def int (s : Spelling) : Except Impossible Int :=
  let (negative, body) := cutSpelledSign (withoutUnderscores s)
  (intBody body).map fun n => if negative then -n else n

/-- The words for what is not finite. -/
def nonFinites : List String := ["inf", "infinity", "nan"]

/-- The same in the format's own words. -/
def dottedNonFinites : List String := [".inf", ".nan"]

/-- The exponent after the digits. -/
def exponent? : Text → Option Int
  | [] => some 0
  | 'e' :: rest =>
    let (negative, digits) := cutSign rest
    match digits, number? 10 digits with
    | _ :: _, some n => some (if negative then -(n : Int) else n)
    | _, _ => none
  | _ => none

/-- Reads a number in decimal notation without a sign. -/
def decimal? (t : Text) : Option Decimal := do
  let whole := t.takeWhile Char.isDigit
  let rest := t.dropWhile Char.isDigit
  let (fraction, tail) := match rest with
    | '.' :: rest => (rest.takeWhile Char.isDigit, rest.dropWhile Char.isDigit)
    | rest => ([], rest)
  let exponent ← exponent? tail
  let mantissa ← number? 10 (whole ++ fraction)
  if whole ++ fraction = [] then none else some ⟨mantissa, exponent - fraction.length⟩

/-- Gives a number a sign. -/
def signed (negative : Bool) (x : Option Double) : Option Double :=
  if negative then x.map Double.neg else x

/-- Reads a number in base ten. What is not finite is none. -/
def realInTen (s : Spelling) : Except Impossible (Option Double) :=
  let (negative, body) := cutSign (bare s)
  if body.asString ∈ nonFinites then .ok none
  else
    match decimal? body with
    | some d => .ok (signed negative d.toDouble?)
    | none => .error (.noNumber s)

/-- The sum of digits in base sixty, the last one first, where the first of them stands for
multiples of `weight`. -/
def sumOfSixtieths (weight : Nat) (sum : Option Double) :
    List (Option Double) → Except Impossible (Option Double)
  | [] => .ok sum
  | d :: rest =>
    match Double.ofNat weight with
    | none => .error .tooManySixtieths
    | some w => sumOfSixtieths (60 * weight) (do (← sum).add (← (← d).mul w)) rest

/-- Reads a number after its sign. -/
def realBody (s : Spelling) : Except Impossible (Option Double) :=
  if s.shown.asString ∈ dottedNonFinites then .ok none
  else if .char ':' ∈ s then do
    let digits ← (sixtieths s).mapM realInTen
    sumOfSixtieths 1 (some ⟨0⟩) digits.reverse
  else realInTen s

/-- Reads a number in letters of either case. -/
def real (s : Spelling) : Except Impossible Value :=
  match Spelling.toLower (withoutUnderscores s) with
  | [] => .error .emptyNumeral
  | s =>
    let (negative, body) := cutSpelledSign s
    (realBody body).map fun x => .ofDouble? (signed negative x)

end Numeral

end CrateDocs.Yaml
