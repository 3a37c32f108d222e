import CrateDocs.Yaml.Lexer
import CrateDocs.Yaml.Node

namespace CrateDocs.Yaml

/-!
# Reading nodes

The tokens of a document are put together to its nodes, a token at a time.

* `Reading` is what is known on the way: the lexer, what the handles of tags stand for, the nodes so
  far, and the names that they have;
* `Reader` is a step of reading;
* `Reader.peek` and `Reader.skip` go through the tokens;
* `Reader.properties` reads the name and the tag before a node;
* `Reader.scalar`, `Reader.sequence` and `Reader.mapping` add a node.
-/

/-- What is known while nodes are read. -/
structure Reading where
  lexer : Lexer
  /-- how many collections may be open at a time -/
  limit : Nat
  handles : List (Text × Text) := []
  graph : Graph := #[]
  anchors : List (Text × NodeId) := []
  /-- how many collections are open -/
  depth : Nat := 0

/-- A step of reading nodes. -/
abbrev Reader := StateT Reading (Except Fault)

namespace Reader

/-! ### Tokens -/

/-- The token ahead. -/
def peek : Reader Token := do
  let r ← get
  let lexer ← (r.lexer.settle : Except Fault Lexer)
  set { r with lexer }
  return lexer.waiting.head?.getD .streamEnd

/-- Moves over a token. -/
def skip : Reader Unit := modify fun r => { r with lexer := r.lexer.drop }

/-- Whether the token ahead is `t`. -/
def at? (t : Token) : Reader Bool := return (← peek) = t

/-- Whether one of several tokens is ahead. -/
def atAny? (ts : List Token) : Reader Bool := return (← peek) ∈ ts

/-- Moves over `t` if it is ahead, and tells whether it was. -/
def eat? (t : Token) : Reader Bool := do
  if ← at? t then
    skip
    return true
  else return false

/-! ### Names and tags -/

/-- What a tag stands for. -/
def resolve (handle : Option Text) (suffix : Text) : Reader Text := do
  match handle with
  | none => return suffix
  | some h =>
    match (← get).handles.lookup h with
    | some meaning => return meaning ++ suffix
    | none => throw .malformed

/-- The name and the tag of the node ahead, each of which may be missing. -/
structure Properties where
  anchor : Option Text := none
  tag : Option Text := none

/-- Whether there is a name or a tag. -/
def Properties.isPresent (p : Properties) : Bool := p.anchor.isSome || p.tag.isSome

/-- Reads a name, if one is ahead. -/
def anchor? : Reader (Option Text) := do
  match ← peek with
  | .anchor a =>
    skip
    return some a
  | _ => return none

/-- Reads a tag, if one is ahead. -/
def tag? : Reader (Option (Option Text × Text)) := do
  match ← peek with
  | .tag handle suffix =>
    skip
    return some (handle, suffix)
  | _ => return none

/-- Reads a name and a tag in either order. -/
def properties : Reader Properties := do
  let first ← anchor?
  let tag ← tag?
  let second ← if first.isNone ∧ tag.isSome then anchor? else pure none
  let anchor := first <|> second
  let tag ← match tag with
    | none => pure none
    | some (handle, suffix) => some <$> resolve handle suffix
  return ⟨anchor, tag⟩

/-! ### Nodes -/

/-- The tag that leaves a node to its own. -/
def bareTag : Text := ['!']

/-- What a scalar means, by its tag or by its looks. -/
def scalarMeaning (tag : Option Text) (style : Style) (s : Spelling) : Meaning :=
  match tag with
  | none => if style = .plain then Meaning.ofLooks s else .text
  | some tag => if tag = bareTag then Meaning.ofLooks s else Meaning.ofTag tag

/-- What a collection means, by its tag or as it is used to. -/
def collectionMeaning (tag : Option Text) (usual : Meaning) : Meaning :=
  match tag with
  | none => usual
  | some tag => if tag = bareTag then usual else Meaning.ofTag tag

/-- Adds a node. A name that is given twice is refused. -/
def add (anchor : Option Text) (node : Node) : Reader NodeId := do
  let r ← get
  let (n, graph) := r.graph.add node
  match anchor with
  | none => set { r with graph }
  | some a =>
    if (r.anchors.lookup a).isSome then throw .malformed
    set { r with graph, anchors := (a, n) :: r.anchors }
  return n

/-- The node that has a name. -/
def named (anchor : Text) : Reader NodeId := do
  match (← get).anchors.lookup anchor with
  | some n => return n
  | none => throw .malformed

/-- Adds a scalar. -/
def scalar (p : Properties) (s : Spelling) (style : Style) : Reader NodeId :=
  add p.anchor ⟨scalarMeaning p.tag style s, .scalar s⟩

/-- Adds a scalar that is not there. -/
def empty : Reader NodeId := scalar {} [] .plain

/-- Reads what is in a collection, which must not be too deep in others. -/
def within {α : Type} (content : Reader α) : Reader α := do
  let r ← get
  if r.limit ≤ r.depth then throw (.impossible .tooDeep)
  modify fun inner => { inner with depth := r.depth + 1 }
  let a ← content
  modify fun outer => { outer with depth := r.depth }
  return a

/-- Adds a collection. It is there before its content is read, so it can appear in itself. -/
def collection {α : Type} (p : Properties) (usual : Meaning) (make : List α → Content)
    (content : Reader (List α)) : Reader NodeId := do
  let meaning := collectionMeaning p.tag usual
  let n ← add p.anchor ⟨meaning, make []⟩
  let children ← within content
  modify fun r => { r with graph := r.graph.update n fun _ => ⟨meaning, make children⟩ }
  return n

/-- Adds a sequence. -/
def sequence (p : Properties) (nodes : Reader (List NodeId)) : Reader NodeId :=
  collection p .list .items nodes

/-- Adds a mapping. -/
def mapping (p : Properties) (nodes : Reader (List Entry)) : Reader NodeId :=
  collection p .mapping .entries nodes

end Reader

end CrateDocs.Yaml
