import CrateDocs.Text.Quoted

namespace CrateDocs.Yaml

/-!
# Faults of a document

A document can break the rules of the format, or be in order and name a value that there is not,
such as the 31st of June.

* `Impossible` is such a value, and `Impossible.message` says what is wrong with it;
* `Fault` is either kind of fault.
-/

/-- A value that a document can name and that there is not. -/
inductive Impossible
  | year (n : Nat)
  | month
  | day
  | hour
  | minute
  | second
  /-- a zone a day or more away, in seconds -/
  | zone (seconds : Int)
  /-- a text that is no timestamp -/
  | noTimestamp
  /-- a mapping in place of a timestamp -/
  | mappedTimestamp
  /-- a text that is no integer in the given base -/
  | noInteger (base : Nat) (s : Spelling)
  /-- a text that is no number -/
  | noNumber (s : Spelling)
  /-- no text where a number is due -/
  | emptyNumeral
  /-- a decimal numeral that is too long to be read -/
  | tooManyDigits (count : Nat)
  /-- a number in base sixty with a digit too far left -/
  | tooManySixtieths
  /-- a word that is no truth value -/
  | noTruth (word : Spelling)
  /-- a code point beyond the last one -/
  | codePoint
  /-- a code point beyond all integers of 32 bits -/
  | wideCodePoint
  /-- a node too deep in others, or without an end -/
  | tooDeep
  deriving DecidableEq, Repr

namespace Impossible

/-- The most digits that a decimal numeral may have. -/
def digitLimit : Nat := 4300

/-- How much of a text is shown that is no integer, its quote included. -/
def shownLength : Nat := 200

/-- A span of at least a day, in days and seconds, of which the days may be negative. -/
def span (seconds : Int) : String :=
  let days := seconds / 86400
  let rest := seconds % 86400
  if rest = 0 then s!"datetime.timedelta(days={days})"
  else s!"datetime.timedelta(days={days}, seconds={rest})"

/-- What is wrong, in words. -/
def message : Impossible → String
  | year n => s!"year {n} is out of range"
  | month => "month must be in 1..12"
  | day => "day is out of range for month"
  | hour => "hour must be in 0..23"
  | minute => "minute must be in 0..59"
  | second => "second must be in 0..59"
  | zone seconds =>
    "offset must be a timedelta strictly between -timedelta(hours=24) and " ++
      s!"timedelta(hours=24), not {span seconds}."
  | noTimestamp => "'NoneType' object has no attribute 'groupdict'"
  | mappedTimestamp => "expected string or bytes-like object, got 'list'"
  | noInteger base s =>
    s!"invalid literal for int() with base {base}: " ++ Text.asString (s.quoted.take shownLength)
  | noNumber s => s!"could not convert string to float: {s.quoted.asString}"
  | emptyNumeral => "string index out of range"
  | tooManyDigits count =>
    s!"Exceeds the limit ({digitLimit} digits) for integer string conversion: " ++
      s!"value has {count} digits; use sys.set_int_max_str_digits() to increase the limit"
  | tooManySixtieths => "int too large to convert to float"
  | noTruth word => word.quoted.asString
  | codePoint => "chr() arg not in range(0x110000)"
  | wideCodePoint => "Python int too large to convert to C int"
  | tooDeep => "maximum recursion depth exceeded"

end Impossible

/-- Why a document cannot be read. -/
inductive Fault
  /-- it breaks the rules of the format -/
  | malformed
  /-- it names a value that there is not -/
  | impossible (what : Impossible)
  deriving DecidableEq, Repr

end CrateDocs.Yaml
