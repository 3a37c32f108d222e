import CrateDocs.Report

namespace CrateDocs

/-!
# Log levels by name

The settings name the least level that is logged, in letters of either case.

* `LogLevel.upper` writes a name in capitals;
* `LogLevel.threshold` gives the rank of a named level. An unknown name stands for the usual
  level, but there are two names that belong to the log without being levels.
-/

namespace LogLevel

/-- Characters other than ASCII letters that are letters of ASCII in capitals. -/
def capitals : List (Char × String) :=
  [('ß', "SS"), ('ı', "I"), ('ſ', "S"), ('ﬀ', "FF"), ('ﬁ', "FI"), ('ﬂ', "FL"), ('ﬃ', "FFI"),
    ('ﬄ', "FFL"), ('ﬅ', "ST"), ('ﬆ', "ST")]

/-- A name in capitals, as far as these are letters of ASCII. -/
def upper (name : Text) : Text :=
  name.flatMap fun c =>
    match capitals.lookup c with
    | some s => s.toList
    | none => [c.toUpper]

/-- The ranks of the levels that have a name. -/
def ranks : List (String × Nat) :=
  [("NOTSET", 0), ("DEBUG", Level.debug.rank), ("INFO", Level.info.rank),
    ("WARN", Level.warning.rank), ("WARNING", Level.warning.rank), ("ERROR", 40),
    ("CRITICAL", 50), ("FATAL", 50)]

/-- Why a name is not that of a level. -/
inductive Misnomer
  /-- the name of a text -/
  | text
  /-- the name of a table -/
  | table
  deriving DecidableEq, Repr

/-- The names that belong to the log without being levels. -/
def misnomers : List (String × Misnomer) := [("BASIC_FORMAT", .text), ("_STYLES", .table)]

/-- The rank of the level of the given name. -/
def threshold (name : Spelling) : Except Misnomer Nat :=
  let name := (upper name.shown).asString
  match misnomers.lookup name with
  | some m => .error m
  | none => .ok ((ranks.lookup name).getD Level.info.rank)

/-- The time that log lines carry. It is always the same, so that what is logged depends on
nothing but what is done. -/
def time : String := "00:00:00"

/-- An event as a line of the log. -/
def line (e : Event) : String := s!"{time} {e.level.word} [{e.source}] {e.text}\n"

/-- The log of the events of at least the given rank. -/
def log (least : Nat) (events : List Event) : String :=
  String.join ((events.filter fun e => least ≤ e.level.rank).map line)

end LogLevel

end CrateDocs
