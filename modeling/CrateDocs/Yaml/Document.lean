import CrateDocs.Yaml.Construction
import CrateDocs.Yaml.Reader

namespace CrateDocs.Yaml

/-!
# Documents

A document is a stream of tokens with a node at its root, which gives the value.

* `Reader.node` reads a node with all that is below it;
* `Reader.stream` reads a stream with at most one document;
* `load` gives the value of a document, null for none, with at most a number of collections open at
  a time, such as `usualLimit`.
-/

namespace Reader

/-- The tokens before which an entry of a block mapping is empty. -/
def entryEnds : List Token := [.key, .value, .blockEnd]

mutual

/-- Reads a node. A sequence in a mapping need not be indented. -/
def node (isBlock mayHang : Bool) : Nat → Reader NodeId
  | 0 => throw .malformed
  | fuel + 1 => do
    if let .alias a ← peek then
      skip
      return ← named a
    let p ← properties
    let orEmpty := if p.isPresent then scalar p [] .plain else throw .malformed
    match ← peek with
    | .scalar s style =>
      skip
      scalar p s style
    | .flowSequenceStart =>
      skip
      sequence p (flowItems true fuel)
    | .flowMappingStart =>
      skip
      mapping p (flowEntries true fuel)
    | .blockEntry => if mayHang then sequence p (hangingItems fuel) else orEmpty
    | .blockSequenceStart =>
      if isBlock then
        skip
        sequence p (blockItems fuel)
      else orEmpty
    | .blockMappingStart =>
      if isBlock then
        skip
        mapping p (blockEntries fuel)
      else orEmpty
    | _ => orEmpty

/-- Reads the items of a block sequence and its end. -/
def blockItems : Nat → Reader (List NodeId)
  | 0 => throw .malformed
  | fuel + 1 => do
    if ← eat? .blockEntry then
      let n ← if ← atAny? [.blockEntry, .blockEnd] then empty else node true false fuel
      return n :: (← blockItems fuel)
    else if ← eat? .blockEnd then return []
    else throw .malformed

/-- Reads the items of a sequence that is not indented. -/
def hangingItems : Nat → Reader (List NodeId)
  | 0 => throw .malformed
  | fuel + 1 => do
    if ← eat? .blockEntry then
      let n ← if ← atAny? (.blockEntry :: entryEnds) then empty else node true false fuel
      return n :: (← hangingItems fuel)
    else return []

/-- Reads the entries of a block mapping and its end. -/
def blockEntries : Nat → Reader (List Entry)
  | 0 => throw .malformed
  | fuel + 1 => do
    if ← eat? .key then
      let k ← if ← atAny? entryEnds then empty else node true true fuel
      let v ← if ← eat? .value then
          if ← atAny? entryEnds then empty else node true true fuel
        else empty
      return (k, v) :: (← blockEntries fuel)
    else if ← eat? .blockEnd then return []
    else throw .malformed

/-- Reads the items of a flow sequence and its end. An item with a key is a mapping of its own. -/
def flowItems (first : Bool) : Nat → Reader (List NodeId)
  | 0 => throw .malformed
  | fuel + 1 => do
    if ← eat? .flowSequenceEnd then return []
    if !first then
      if !(← eat? .flowEntry) then throw .malformed
    if ← eat? .flowSequenceEnd then return []
    let n ← if ← eat? .key then
        mapping {} do return [(← flowPair .flowSequenceEnd fuel)]
      else node false false fuel
    return n :: (← flowItems false fuel)

/-- Reads the entries of a flow mapping and its end. -/
def flowEntries (first : Bool) : Nat → Reader (List Entry)
  | 0 => throw .malformed
  | fuel + 1 => do
    if ← eat? .flowMappingEnd then return []
    if !first then
      if !(← eat? .flowEntry) then throw .malformed
    if ← eat? .flowMappingEnd then return []
    let entry ← if ← eat? .key then flowPair .flowMappingEnd fuel
      else do
        let k ← node false false fuel
        pure (k, ← empty)
    return entry :: (← flowEntries false fuel)

/-- Reads a key and a value in a flow collection that ends with `close`. -/
def flowPair (close : Token) : Nat → Reader Entry
  | 0 => throw .malformed
  | fuel + 1 => do
    let k ← if ← atAny? [.value, .flowEntry, close] then empty else node false false fuel
    let v ← if ← eat? .value then
        if ← atAny? [.flowEntry, close] then empty else node false false fuel
      else empty
    return (k, v)

end

/-! ### Streams -/

/-- What the handles of tags stand for unless a directive says otherwise. -/
def defaultHandles : List (Text × Text) := [(bareTag, bareTag), (['!', '!'], Meaning.tagBase)]

/-- Reads the directives before a document. -/
def directives (sawVersion : Bool) : Nat → Reader Unit
  | 0 => throw .malformed
  | fuel + 1 => do
    match ← peek with
    | .directive (.version major) =>
      skip
      if sawVersion ∨ major ≠ 1 then throw .malformed
      directives true fuel
    | .directive (.handle name meaning) =>
      skip
      if ((← get).handles.lookup name).isSome then throw .malformed
      modify fun r => { r with handles := r.handles ++ [(name, meaning)] }
      directives sawVersion fuel
    | .directive .other =>
      skip
      directives sawVersion fuel
    | _ => return

/-- Reads the line before a document, with its directives. -/
def header (fuel : Nat) : Reader Unit := do
  modify fun r => { r with handles := [] }
  directives false fuel
  if !(← eat? .documentStart) then throw .malformed
  modify fun r => { r with handles := r.handles ++ defaultHandles }

/-- Reads the root of a document that has a line before it. -/
def afterHeader (fuel : Nat) : Reader NodeId := do
  match ← peek with
  | .directive _ | .documentStart | .documentEnd | .streamEnd => empty
  | _ => node true false fuel

/-- Moves over the ends of documents. -/
def skipEnds : Nat → Reader Unit
  | 0 => return
  | fuel + 1 => do
    if ← eat? .documentEnd then skipEnds fuel

/-- Reads a stream of at most one document. Of another one the line before it is read, as far as
that goes. -/
def stream (fuel : Nat) : Reader (Option NodeId) := do
  let root ← match ← peek with
    | .streamEnd => pure none
    | .directive _ | .documentStart => do
      header fuel
      some <$> afterHeader fuel
    | _ => do
      modify fun r => { r with handles := defaultHandles }
      some <$> node true false fuel
  skipEnds fuel
  if ← at? .streamEnd then return root
  header fuel
  throw .malformed

/-- Reads the nodes of a document. There are at most four tokens for each character and two more,
and three steps for each token and each collection are enough. -/
def ofDocument (limit : Nat) (document : Text) : Except Fault (Option NodeId × Graph) := do
  let lexer ← Lexer.ofDocument document
  let (root, r) ← (stream (16 * document.length + 32)).run { lexer, limit }
  return (root, r.graph)

end Reader

/-- The value of a document in which at most `limit` collections are open at a time, or its fault. A
stream without a document is null. -/
def load (limit : Nat) (document : Text) : Except Fault Value := do
  match ← Reader.ofDocument limit document with
  | (none, _) => return .null
  | (some root, g) => g.load root

/-- How many collections may be open at a time in a usual run. It stands for the limit that an
interpreter puts on calls within calls: each collection takes some of them, and how many are left
depends on what calls for the document and on what is in the collections. -/
def usualLimit : Nat := 490

end CrateDocs.Yaml
