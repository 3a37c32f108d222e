import CrateDocs.Yaml.Merge

namespace CrateDocs.Yaml

/-!
# Values of nodes

A node is given its value once, wherever it appears. A collection starts without content, and is
filled after all that was met before it, so a collection can hold itself. Which of several faults
counts depends on that order.

* `Builder` is a step of giving values, and `Building` what it knows;
* `Builder.value` is the value of a node as it is met, and `Builder.fill` fills a collection;
* `Graph.load` gives the value of the root.

What is in a collection within a collection is looked at for its faults only.
-/

/-- What is known while nodes are given values. -/
structure Building where
  graph : Graph
  /-- the values of nodes that have one -/
  values : List (NodeId × Value) := []
  /-- the collections that are to be filled, the last one first -/
  unfilled : List NodeId := []

/-- A step of giving values to nodes. -/
abbrev Builder := StateT Building (Except Fault)

namespace Builder

/-- Whether a value can be a key. -/
def isKey : Value → Bool
  | .list _ | .mapping _ | .set _ => false
  | _ => true

/-- The collection without content that a meaning stands for. -/
def bare? : Meaning → Option Value
  | .list | .pairs => some (.list [])
  | .mapping => some (.mapping [])
  | .set => some (.set [])
  | _ => none

/-- The value of a node that is no collection. A mapping can give the text of its default value, but
not as a timestamp. -/
def scalarValue (g : Graph) (n : NodeId) : Except Fault Value :=
  match g.meaning n with
  | .unknown | .merge | .default => .error .malformed
  | m => do
    let s ← g.spelling n
    match m, g.content n with
    | .timestamp, .entries _ => throw (.impossible .mappedTimestamp)
    | m, _ => m.read s

/-- The value of a node as it is met. -/
def value (n : NodeId) : Builder Value := do
  let b ← get
  match b.values.lookup n with
  | some v => return v
  | none =>
    match bare? (b.graph.meaning n) with
    | some v =>
      set { b with values := (n, v) :: b.values, unfilled := n :: b.unfilled }
      return v
    | none =>
      let v ← (scalarValue b.graph n : Except Fault Value)
      set { b with values := (n, v) :: b.values }
      return v

/-- The items of a sequence. -/
def items (n : NodeId) : Builder (List NodeId) := do
  match (← get).graph.content n with
  | .items nodes => return nodes
  | .scalar _ | .entries _ => throw .malformed

/-- A key, which is no collection, and its value. -/
def pair (entry : Entry) : Builder (Value × Value) := do
  let k ← value entry.1
  if !isKey k then throw .malformed
  return (k, ← value entry.2)

/-- The pairs of a mapping with those that are merged into it. -/
def pairs (n : NodeId) : Builder (List (Value × Value)) := do
  let b ← get
  let (nodes, graph) ← (Merger.flatEntries Merger.flatten n).run b.graph
  set { b with graph }
  nodes.mapM pair

/-- A mapping of a single entry as a list of two values. -/
def couple (n : NodeId) : Builder Value := do
  match (← get).graph.content n with
  | .entries [(k, v)] => return .list [← value k, ← value v]
  | _ => throw .malformed

/-- Fills a collection. -/
def fill (n : NodeId) : Builder Value := do
  match (← get).graph.meaning n with
  | .list => return .list (← (← items n).mapM value)
  | .pairs => return .list (← (← items n).mapM couple)
  | .mapping => return .mapping (← pairs n)
  | .set => return .set ((← pairs n).map (·.1))
  | _ => throw .malformed

/-- Takes the collections that are to be filled, in order. -/
def takeUnfilled : Builder (List NodeId) :=
  modifyGet fun b => (b.unfilled.reverse, { b with unfilled := [] })

/-- Fills all collections, a round of them at a time. -/
def fillAll : Nat → Builder Unit
  | 0 => pure ()
  | rounds + 1 => do
    let nodes ← takeUnfilled
    if nodes = [] then return
    nodes.forM fun n => discard (fill n)
    fillAll rounds

/-- The value of the root, filled if it is a collection. -/
def rootValue (root : NodeId) : Builder Value := do
  let v ← value root
  match ← takeUnfilled with
  | [] => return v
  | _ :: _ => fill root

end Builder

/-- The value of the root of a document. Collections below it are filled, too, because there may be
faults in them. -/
def Graph.load (g : Graph) (root : NodeId) : Except Fault Value :=
  (do
    let v ← Builder.rootValue root
    Builder.fillAll (g.size + 1)
    return v : Builder Value).run' { graph := g }

end CrateDocs.Yaml
