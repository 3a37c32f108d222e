import CrateDocs.Yaml.Cursor
import CrateDocs.Yaml.Digit
import CrateDocs.Yaml.Fault

namespace CrateDocs.Yaml

/-!
# Timestamps

A timestamp is a day, perhaps with a time and a zone.

* `Timestamp.ofText?` reads one;
* `Timestamp.flaw?` says what is wrong with one that there is not.
-/

/-- The time of a day, with the distance of its zone in seconds if it has one. -/
structure Clock where
  hour : Nat
  minute : Nat
  second : Nat
  zone : Option Int := none
  deriving DecidableEq, Repr

/-- A day, perhaps with a time. -/
structure Timestamp where
  year : Nat
  month : Nat
  day : Nat
  clock : Option Clock := none
  deriving DecidableEq, Repr

namespace Timestamp

/-- Reads as many digits as there are, up to `most` and at least `least` of them: their number and
what follows. -/
def digits? (least most : Nat) (t : Text) : Option (Nat × Text) := do
  let digits := (t.take most).takeWhile Char.isDigit
  let n ← number? 10 digits
  if least ≤ digits.length then some (n, t.drop digits.length) else none

/-- What follows the white space or the letter between a day and a time. -/
def afterDay? : Text → Option Text
  | [] => none
  | c :: rest =>
    if c = 'T' ∨ c = 't' then some rest
    else if isGap c then some (rest.dropWhile isGap)
    else none

/-- Reads what follows a time: nothing, or a zone. -/
def zone? (t : Text) : Option (Option Int) :=
  match t.dropWhile isGap with
  | [] => if t = [] then some none else none
  | ['Z'] => some (some 0)
  | sign :: rest => do
    let (hours, rest) ← digits? 1 2 rest
    let minutes ← match rest with
      | [] => some 0
      | ':' :: rest => do
        let (minutes, rest) ← digits? 2 2 rest
        if rest = [] then some minutes else none
      | _ => none
    let seconds : Int := 60 * (60 * hours + minutes)
    if sign = '+' then some (some seconds)
    else if sign = '-' then some (some (-seconds))
    else none

/-- Reads a time. A fraction of a second does not count. -/
def clock? (t : Text) : Option Clock := do
  let (hour, rest) ← digits? 1 2 t
  let (minute, rest) ← digits? 2 2 (← Text.after? [':'] rest)
  let (second, rest) ← digits? 2 2 (← Text.after? [':'] rest)
  let rest := match rest with
    | '.' :: rest => rest.dropWhile Char.isDigit
    | rest => rest
  some ⟨hour, minute, second, ← zone? rest⟩

/-- Reads a timestamp. -/
def ofText? (t : Text) : Option Timestamp := do
  let (year, rest) ← digits? 4 4 t
  let (month, rest) ← digits? 1 2 (← Text.after? ['-'] rest)
  let (day, rest) ← digits? 1 2 (← Text.after? ['-'] rest)
  if rest = [] then some ⟨year, month, day, none⟩
  else some ⟨year, month, day, ← clock? (← afterDay? rest)⟩

/-- Whether a year has a 29th of February. -/
def isLeap (year : Nat) : Bool := year % 4 = 0 && (year % 100 ≠ 0 || year % 400 = 0)

/-- How many days a month has. -/
def daysIn (year month : Nat) : Nat :=
  if month = 2 then (if isLeap year then 29 else 28)
  else if month ∈ [4, 6, 9, 11] then 30
  else 31

/-- What is wrong with a zone. -/
def zoneFlaw? (seconds : Int) : Option Impossible :=
  if 86400 ≤ seconds.natAbs then some (.zone seconds) else none

/-- What is wrong with a day. -/
def dayFlaw? (year month day : Nat) : Option Impossible :=
  if year = 0 then some (.year year)
  else if month = 0 ∨ 12 < month then some .month
  else if day = 0 ∨ daysIn year month < day then some .day
  else none

/-- What is wrong with a time. -/
def clockFlaw? (c : Clock) : Option Impossible :=
  if 23 < c.hour then some .hour
  else if 59 < c.minute then some .minute
  else if 59 < c.second then some .second
  else none

/-- What is wrong with a timestamp: first with its zone, then with its day, then with its time. -/
def flaw? (t : Timestamp) : Option Impossible :=
  (t.clock.bind (·.zone)).bind zoneFlaw? <|>
    dayFlaw? t.year t.month t.day <|> t.clock.bind clockFlaw?

end Timestamp

end CrateDocs.Yaml
