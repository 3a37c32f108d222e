import CrateDocs.Yaml.Node

namespace CrateDocs.Yaml

/-!
# Merged mappings

An entry of a mapping can say that the entries of other mappings belong to it. They go before its
own, so that its own take their place.

* `Merger` is a step that changes the nodes of a document;
* `Merger.flatten` puts the entries that are merged into a mapping in place of those that say so.

The nodes themselves are changed, so a mapping that appears in several places is merged once for
all of them. In its keys, the mark of a default value becomes text by that.
-/

/-- A step that changes the nodes of a document. -/
abbrev Merger := StateT Graph (Except Fault)

namespace Merger

/-- The entries of a mapping. -/
def entries (n : NodeId) : Merger (List Entry) := do
  match (← get).content n with
  | .entries nodes => return nodes
  | .scalar _ | .items _ => throw .malformed

/-- Gives a mapping other entries. -/
def setEntries (n : NodeId) (nodes : List Entry) : Merger Unit :=
  modify (·.update n fun node => { node with content := .entries nodes })

/-- Takes the mark of a default value for text. -/
def keepAsText (n : NodeId) : Merger Unit :=
  modify (·.update n fun node =>
    if node.meaning = .default then { node with meaning := .text } else node)

/-- The entries of a mapping once it is flattened. -/
def flatEntries (flatten : NodeId → Merger Unit) (n : NodeId) : Merger (List Entry) := do
  let _ ← entries n
  flatten n
  entries n

/-- The entries that a node gives to the mapping that it is merged into. Of several mappings the
first one counts most, so it comes last. -/
def sourceEntries (flatten : NodeId → Merger Unit) (source : NodeId) : Merger (List Entry) := do
  match (← get).content source with
  | .scalar _ => throw .malformed
  | .entries _ => flatEntries flatten source
  | .items nodes => return (← nodes.mapM (flatEntries flatten)).reverse.flatten

/-- Flattens a mapping from a place on, when the entries `merged` are to be merged into it. For each
entry that says so, it is taken out of its mapping first, so there is an end to it even if mappings
are merged into themselves. -/
def flattenFrom : Nat → NodeId → Nat → List Entry → Merger Unit
  | 0, _, _, _ => pure ()
  | fuel + 1, n, place, merged => do
    let nodes ← entries n
    let g ← get
    let plain := (nodes.drop place).takeWhile (g.meaning ·.1 ≠ .merge)
    plain.forM fun entry => keepAsText entry.1
    let place := place + plain.length
    match nodes[place]? with
    | none => if merged ≠ [] then setEntries n (merged ++ nodes)
    | some (_, source) =>
      setEntries n (nodes.eraseIdx place)
      let more ← sourceEntries (fun m => flattenFrom fuel m 0 []) source
      flattenFrom fuel n place (merged ++ more)

/-- How many entries there are in a document. -/
def entryCount (g : Graph) : Nat :=
  g.foldl (fun count node =>
    match node.content with
    | .entries nodes => count + nodes.length
    | .scalar _ | .items _ => count) 0

/-- Puts the entries that are merged into a mapping in place of those that say so. -/
def flatten (n : NodeId) : Merger Unit := do flattenFrom (entryCount (← get) + 1) n 0 []

end Merger

end CrateDocs.Yaml
