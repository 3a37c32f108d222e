import CrateDocs.Yaml.Meaning

namespace CrateDocs.Yaml

/-!
# Nodes

A document is built from scalars, sequences and mappings. A node that has a name can appear again
under it, even within itself, so the nodes of a document are numbered, and a node knows those below
it by their numbers.

* `Content` is what a node holds, and `Node` adds what it means;
* `Graph` is the nodes of a document, with `Graph.add` and `Graph.update` to change them;
* `Graph.spelling` is what a node gives where a scalar is due.
-/

/-- The number of a node. -/
abbrev NodeId := Nat

/-- A key and a value. -/
abbrev Entry := NodeId × NodeId

/-- What a node holds. -/
inductive Content
  | scalar (s : Spelling)
  | items (nodes : List NodeId)
  | entries (nodes : List Entry)
  deriving DecidableEq, Repr

/-- What a node holds, and what it means. -/
structure Node where
  meaning : Meaning
  content : Content
  deriving DecidableEq, Repr

/-- A scalar that is not there. -/
def Node.empty : Node := ⟨.null, .scalar []⟩

/-- The nodes of a document, by their numbers. -/
abbrev Graph := Array Node

namespace Graph

/-- The node of the given number. -/
def node (g : Graph) (n : NodeId) : Node := g.getD n Node.empty

/-- What a node means. -/
def meaning (g : Graph) (n : NodeId) : Meaning := (g.node n).meaning

/-- What a node holds. -/
def content (g : Graph) (n : NodeId) : Content := (g.node n).content

/-- Adds a node, and tells its number. -/
def add (g : Graph) (node : Node) : NodeId × Graph := (g.size, g.push node)

/-- Changes a node. -/
def update (g : Graph) (n : NodeId) (f : Node → Node) : Graph := g.modify n f

/-- What a node gives where a scalar is due, down to a depth. A mapping gives what its default value
gives, and a mapping that is its own default value gives nothing. -/
def spellingWithin (g : Graph) : Nat → NodeId → Except Fault Spelling
  | 0, _ => .error (.impossible .tooDeep)
  | depth + 1, n =>
    match g.content n with
    | .scalar s => .ok s
    | .items _ => .error .malformed
    | .entries nodes =>
      match nodes.find? (g.meaning ·.1 = .default) with
      | some (_, v) => spellingWithin g depth v
      | none => .error .malformed

/-- What a node gives where a scalar is due. -/
def spelling (g : Graph) (n : NodeId) : Except Fault Spelling := g.spellingWithin (g.size + 1) n

end Graph

end CrateDocs.Yaml
