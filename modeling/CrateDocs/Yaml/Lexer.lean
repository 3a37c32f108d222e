import CrateDocs.Yaml.Scalar.Block
import CrateDocs.Yaml.Scalar.Plain
import CrateDocs.Yaml.Tag

namespace CrateDocs.Yaml

/-!
# Reading tokens

Blocks have no brackets: they start where a line is indented more deeply, and end where one is
indented less. A key before a colon is only known as a key once the colon is there, so a place
where a key may start is remembered until then.

* `Candidate` is such a place;
* `Lexer` is the state of the reading: the cursor, the tokens that wait, the open blocks and
  collections, and the candidates for keys;
* `Lexer.ofDocument` is the state at the start of a document;
* `Lexer.settle` reads on until it is clear what the next token is, and `Lexer.drop` takes it away.

No more is read than is needed for the next token, because what comes later may have a fault of
its own.
-/

/-- A place where a key may have started. -/
structure Candidate where
  /-- how many tokens there are before it -/
  number : Nat
  /-- whether nothing but a key can stand there -/
  required : Bool
  index : Nat
  line : Nat
  column : Nat
  deriving Repr

/-- The state of the reading of tokens. -/
structure Lexer where
  cursor : Cursor
  /-- the tokens that were read and not taken yet -/
  waiting : List Token := []
  /-- how many tokens were taken -/
  taken : Nat := 0
  /-- whether the end of the stream was read -/
  ended : Bool := false
  /-- the indentation of the innermost block -/
  indent : Int := -1
  /-- the indentations of the blocks around it -/
  outer : List Int := []
  /-- how many flow collections are open -/
  depth : Nat := 0
  /-- whether a key may start here -/
  allowsKey : Bool := true
  /-- for each depth at most one place where a key may have started -/
  candidates : List (Nat × Candidate) := []

namespace Lexer

/-- The longest that a key may be. -/
def keyLimit : Nat := 1024

/-- Whether a flow collection is open. -/
def inFlow (s : Lexer) : Bool := s.depth ≠ 0

/-- Adds a token. -/
def emit (s : Lexer) (t : Token) : Lexer := { s with waiting := s.waiting ++ [t] }

/-- Puts a token before those from the given number on. -/
def insert (s : Lexer) (number : Nat) (t : Token) : Lexer :=
  { s with waiting := s.waiting.insertIdx (number - s.taken) t }

/-- Adds a token and moves over its characters. -/
def consume (s : Lexer) (t : Token) (length : Nat) : Lexer :=
  { s.emit t with cursor := s.cursor.advance length }

/-! ### Candidates for keys -/

/-- Whether a candidate is too far behind to be a key. -/
def isStale (s : Lexer) (k : Candidate) : Bool :=
  k.line ≠ s.cursor.line || keyLimit < s.cursor.index - k.index

/-- Forgets the candidates that `p` tells. None of them may be one that has to be a key. -/
def forget (s : Lexer) (p : Nat × Candidate → Bool) : Except Fault Lexer :=
  if s.candidates.any fun k => p k && k.2.required then .error .malformed
  else .ok { s with candidates := s.candidates.filter fun k => !p k }

/-- Forgets the candidates that are too far behind. -/
def forgetStale (s : Lexer) : Except Fault Lexer := s.forget fun k => s.isStale k.2

/-- Forgets the candidate at the present depth. -/
def forgetHere (s : Lexer) : Except Fault Lexer := s.forget fun k => k.1 = s.depth

/-- Remembers that a key may start here. -/
def remember (s : Lexer) : Except Fault Lexer := do
  if !s.allowsKey then return s
  let s ← s.forgetHere
  let candidate : Candidate := {
    number := s.taken + s.waiting.length
    required := !s.inFlow && s.indent = (s.cursor.column : Int)
    index := s.cursor.index
    line := s.cursor.line
    column := s.cursor.column }
  return { s with candidates := (s.depth, candidate) :: s.candidates }

/-! ### Blocks -/

/-- Closes the blocks that are indented more deeply than `column`: the innermost indentation left,
those around it, and the number of closed blocks. -/
def closeBlocks (column indent : Int) : List Int → Int × List Int × Nat
  | [] => (indent, [], 0)
  | o :: rest =>
    if column < indent then
      let (indent, outer, n) := closeBlocks column o rest
      (indent, outer, n + 1)
    else (indent, o :: rest, 0)

/-- Closes the blocks that are indented more deeply than `column`, outside of flow collections. -/
def unwind (s : Lexer) (column : Int) : Lexer :=
  if s.inFlow then s
  else
    let (indent, outer, n) := closeBlocks column s.indent s.outer
    { s with indent, outer, waiting := s.waiting ++ List.replicate n .blockEnd }

/-- Opens a block at `column` if it is indented more deeply than the innermost one, and puts its
start before the tokens from the given number on. -/
def openBlock (s : Lexer) (column number : Nat) (start : Token) : Lexer :=
  if s.indent < (column : Int) then
    { s.insert number start with indent := column, outer := s.indent :: s.outer }
  else s

/-! ### Tokens -/

/-- Ends the stream. -/
def endStream (s : Lexer) : Except Fault Lexer := do
  let s ← (s.unwind (-1)).forgetHere
  return { s.emit .streamEnd with allowsKey := false, candidates := [], ended := true }

/-- Reads a directive. -/
def directive (s : Lexer) : Except Fault Lexer := do
  let s ← (s.unwind (-1)).forgetHere
  let (d, cursor) ← Directive.scan s.cursor
  return { s.emit (.directive d) with cursor, allowsKey := false }

/-- Reads a line that divides documents. -/
def divider (s : Lexer) (t : Token) : Except Fault Lexer := do
  let s ← (s.unwind (-1)).forgetHere
  return { s.consume t 3 with allowsKey := false }

/-- Opens a flow collection. -/
def openFlow (s : Lexer) (t : Token) : Except Fault Lexer := do
  let s ← s.remember
  return { s.consume t 1 with depth := s.depth + 1, allowsKey := true }

/-- Closes a flow collection. -/
def closeFlow (s : Lexer) (t : Token) : Except Fault Lexer := do
  let s ← s.forgetHere
  return { s.consume t 1 with depth := s.depth - 1, allowsKey := false }

/-- Goes on to the next entry of a flow collection. -/
def flowEntry (s : Lexer) : Except Fault Lexer := do
  let s ← s.forgetHere
  return { s.consume .flowEntry 1 with allowsKey := true }

/-- Opens a block of the given kind here if need be. One may start only where a key may. -/
def openBlockHere (s : Lexer) (start : Token) : Except Fault Lexer :=
  if s.inFlow then .ok s
  else if !s.allowsKey then .error .malformed
  else .ok (s.openBlock s.cursor.column (s.taken + s.waiting.length) start)

/-- Reads the dash before an entry of a sequence. -/
def blockEntry (s : Lexer) : Except Fault Lexer := do
  let s ← s.openBlockHere .blockSequenceStart
  let s ← s.forgetHere
  return { s.consume .blockEntry 1 with allowsKey := true }

/-- Reads the question mark before a key. -/
def key (s : Lexer) : Except Fault Lexer := do
  let s ← s.openBlockHere .blockMappingStart
  let s ← s.forgetHere
  return { s.consume .key 1 with allowsKey := !s.inFlow }

/-- Reads the colon before a value. If a key may have started before it, this was a key. -/
def value (s : Lexer) : Except Fault Lexer := do
  match s.candidates.find? (·.1 = s.depth) with
  | some (_, k) =>
    let s := { s with candidates := s.candidates.filter (·.1 ≠ s.depth) }.insert k.number .key
    let s := if s.inFlow then s else s.openBlock k.column k.number .blockMappingStart
    return { s.consume .value 1 with allowsKey := false }
  | none =>
    let s ← s.openBlockHere .blockMappingStart
    let s ← s.forgetHere
    return { s.consume .value 1 with allowsKey := !s.inFlow }

/-- Reads a token that a key may start with. -/
def word (s : Lexer) (scan : Cursor → Except Fault (Token × Cursor)) : Except Fault Lexer := do
  let s ← s.remember
  let (t, cursor) ← scan s.cursor
  return { s.emit t with cursor, allowsKey := false }

/-- Reads a block scalar. -/
def blockScalar (s : Lexer) (joins : Bool) : Except Fault Lexer := do
  let s ← s.forgetHere
  let (text, cursor) ← Block.scan joins s.indent s.cursor
  return { s.emit (.scalar (Text.spelling text) .marked) with cursor, allowsKey := true }

/-- Reads a plain scalar. If it reaches the start of a line, a key may start there. -/
def plainScalar (s : Lexer) : Except Fault Lexer := do
  let s ← s.remember
  let (text, gap) := Plain.scan s.inFlow s.indent s.cursor
  let token := Token.scalar (Text.spelling text) .plain
  return { s.emit token with cursor := gap.cursor, allowsKey := gap.crossesLine }

/-- A scan that turns what it reads into a token. -/
def reading {α : Type} (make : α → Token) (scan : Cursor → Except Fault (α × Cursor))
    (c : Cursor) : Except Fault (Token × Cursor) :=
  (scan c).map fun (a, c) => (make a, c)

/-- Moves to the next token, over spaces, comments and line breaks. Outside of flow collections,
a key may start on a new line. -/
def skipToToken : Nat → Lexer → Lexer
  | 0, s => s
  | fuel + 1, s =>
    let c := s.cursor.skipSpaces.skipComment
    match c.lineBreak? with
    | none => { s with cursor := c }
    | some (_, c) => skipToToken fuel { s with cursor := c, allowsKey := s.allowsKey || !s.inFlow }

/-- Reads the token ahead. -/
def token (s : Lexer) : Except Fault Lexer :=
  let c := s.cursor
  let standsAlone := isStop (c.peekAt? 1)
  let atStart := c.column = 0
  match c.peek? with
  | none => s.endStream
  | some ch =>
    if ch = '%' ∧ atStart then s.directive
    else if atStart ∧ c.atMark "---" then s.divider .documentStart
    else if atStart ∧ c.atMark "..." then s.divider .documentEnd
    else if ch = '[' then s.openFlow .flowSequenceStart
    else if ch = '\x7b' then s.openFlow .flowMappingStart
    else if ch = ']' then s.closeFlow .flowSequenceEnd
    else if ch = '\x7d' then s.closeFlow .flowMappingEnd
    else if ch = ',' then s.flowEntry
    else if ch = '-' ∧ standsAlone then s.blockEntry
    else if ch = '?' ∧ (s.inFlow ∨ standsAlone) then s.key
    else if ch = ':' ∧ (s.inFlow ∨ standsAlone) then s.value
    else if ch = '*' then s.word (reading .alias Name.scan)
    else if ch = '&' then s.word (reading .anchor Name.scan)
    else if ch = '!' then s.word Tag.scan
    else if ch = '|' ∧ !s.inFlow then s.blockScalar false
    else if ch = '>' ∧ !s.inFlow then s.blockScalar true
    else if ch = '\x27' ∨ ch = '\x22' then
      s.word (reading (Token.scalar · .marked) (Quoted.scan ch))
    else if Plain.startsAt s.inFlow c then s.plainScalar
    else .error .malformed

/-- Reads the next token, after what stands before it. -/
def step (s : Lexer) : Except Fault Lexer := do
  let s := skipToToken (s.cursor.rest.length + 1) s
  let s ← s.forgetStale
  token (s.unwind s.cursor.column)

/-- Whether it is clear what the next token is: there is one, and it is not where a key may have
started. -/
def isSettled (s : Lexer) : Bool :=
  s.ended || (s.waiting ≠ [] && s.candidates.all (·.2.number ≠ s.taken))

/-- Forgets the candidates that are too far behind to be the start of the next token. -/
def review (s : Lexer) : Except Fault Lexer :=
  if s.ended || s.waiting = [] then .ok s else s.forgetStale

/-- Reads tokens until it is clear what the next one is. Each token takes up text or is the last
one. -/
def settleFrom : Nat → Lexer → Except Fault Lexer
  | 0, s => .ok s
  | fuel + 1, s => do
    let s ← s.review
    if s.isSettled then return s else settleFrom fuel (← s.step)

/-- Reads on until it is clear what the next token is. -/
def settle (s : Lexer) : Except Fault Lexer := do
  let s ← s.review
  if s.isSettled then return s else settleFrom (s.cursor.rest.length + 2) s

/-- Takes the next token away. -/
def drop (s : Lexer) : Lexer := { s with waiting := s.waiting.drop 1, taken := s.taken + 1 }

/-- Whether a document may hold `c`. -/
def isAllowed (c : Char) : Bool :=
  c = '\t' || c = '\n' || c = '\r' || (' ' ≤ c && c ≤ '~') || c = '\x85' ||
    ('\xa0' ≤ c && c ≤ '\ufffd') || 0x10000 ≤ c.toNat

/-- The state at the start of a document. A byte order mark there is passed over. -/
def ofDocument (document : Text) : Except Fault Lexer :=
  if document.all isAllowed then
    let c : Cursor := ⟨document, 0, 0, 0⟩
    .ok { cursor := if c.peek? = some byteOrderMark then c.next else c }
  else .error .malformed

end Lexer

end CrateDocs.Yaml
