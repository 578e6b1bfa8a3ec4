import RecordFamily.Yaml.Node

/-!
# Merged mappings

A mapping takes over the entries of the mappings that stand at its merge keys; its own entries come
after them. Merging changes the nodes themselves, so that a mapping is merged once and stands with its
merged entries wherever it is used. It may be merged into itself: what it takes over then is what it
holds beside the merge keys that were met already.

* `Nodes`: numbered nodes, with `Nodes.entries` and `Nodes.setEntries`;
* `Nodes.firstMerge`: the first merge key of a mapping;
* **`Nodes.merge`**: the nodes in which a mapping has its merged entries.
-/

namespace RecordFamily

namespace Yaml

/-- Numbered nodes. -/
abbrev Nodes := Array Node

namespace Nodes

/-- The node of a number. -/
def node (nodes : Nodes) (n : Nat) : Node := nodes[n]?.getD .empty

/-- The entries of a mapping. -/
def entries (nodes : Nodes) (n : Nat) : List (Nat × Nat) :=
  match (nodes.node n).content with
  | .mapping es => es
  | _ => []

/-- The node is a mapping. -/
def isMapping (nodes : Nodes) (n : Nat) : Bool :=
  match (nodes.node n).content with
  | .mapping _ => true
  | _ => false

/-- Sets the entries of a mapping. -/
def setEntries (nodes : Nodes) (n : Nat) (es : List (Nat × Nat)) : Nodes :=
  nodes.modify n fun node => { node with content := .mapping es }

/-- The key of the entry is a merge key. -/
def isMerge (nodes : Nodes) (entry : Nat × Nat) : Bool := (nodes.node entry.1).tag == .merge

/-- The value at the first merge key, and the entries without it. -/
def firstMerge (nodes : Nodes) : List (Nat × Nat) → Option (Nat × List (Nat × Nat))
  | [] => none
  | e :: es =>
    if nodes.isMerge e then some (e.2, es)
    else (nodes.firstMerge es).map fun r => (r.1, e :: r.2)

/-- The key `=` of an entry is a text from now on. -/
def textKey (nodes : Nodes) (entry : Nat × Nat) : Nodes :=
  if (nodes.node entry.1).tag == .value then nodes.modify entry.1 fun n => { n with tag := .str }
  else nodes

/-- The entries that a merge key takes over from a mapping, or from the mappings of a list, where
those of the first mapping come last, so that they prevail. -/
def taken (merge : Nodes → Nat → Except Fault Nodes) (nodes : Nodes) (n : Nat) :
    Except Fault (List (Nat × Nat) × Nodes) :=
  match (nodes.node n).content with
  | .mapping _ => do
    let nodes ← merge nodes n
    return (nodes.entries n, nodes)
  | .sequence items =>
    items.foldlM (fun (es, nodes) item =>
      if nodes.isMapping item then do
        let nodes ← merge nodes item
        return (nodes.entries item ++ es, nodes)
      else .error .invalidYaml) ([], nodes)
  | .scalar _ => .error .invalidYaml

/-- The nodes in which a mapping has its merged entries, when the nodes have fewer merge keys than the
bound: every key is dropped before its mappings are merged. -/
def mergeWithin : (bound : Nat) → Nodes → Nat → Except Fault Nodes
  | 0, nodes, _ => .ok nodes
  | bound + 1, nodes, n =>
    let es := nodes.entries n
    match nodes.firstMerge es with
    | none => .ok (es.foldl textKey nodes)
    | some (v, rest) => do
      let (es, nodes) ← taken (mergeWithin bound) (nodes.setEntries n rest) v
      let nodes ← mergeWithin bound nodes n
      return nodes.setEntries n (es ++ nodes.entries n)

/-- The number of merge keys of all nodes. -/
def mergeCount (nodes : Nodes) : Nat :=
  nodes.foldl (fun count node =>
    match node.content with
    | .mapping es => count + es.countP nodes.isMerge
    | _ => count) 0

/-- **The nodes in which a mapping has its merged entries.** -/
def merge (nodes : Nodes) (n : Nat) : Except Fault Nodes :=
  let bound := if (nodes.entries n).any nodes.isMerge then nodes.mergeCount + 1 else 1
  mergeWithin bound nodes n

end Nodes

end Yaml

end RecordFamily
