import RecordFamily.Emit.ClassModule

/-!
# Conversion graphs

The graph that a family is drawn as: a node for each variant and an edge for each ordered pair.

* `graphString`, `graphId`: quoted labels, and names that are quoted when they have to be;
* `GraphNode`, `GraphEdge`, `Graph`: the parts of a graph and the graph, with their lines;
* `EdgeOf.label`: what an edge asks for, cut to forty characters;
* **`FamilyOf.graph`**, **`Graph.text`**: the graph of a family and its text.
-/

namespace RecordFamily

open Text

/-- How much a graph shows. -/
inductive GraphMode where
  /-- The names of the variants. -/
  | simple
  /-- The fields of the variants and what the edges ask for, too. -/
  | detailed
  deriving DecidableEq, Repr

/-! ## Quoting -/

/-- One character of a quoted label. -/
def graphChar (c : Char) : List Char :=
  if c == backslash || c == quotationMark then [backslash, c]
  else if c == '\n' then [backslash, 'n']
  else [c]

/-- A quoted label. -/
def graphString (s : String) : String :=
  String.ofList (quotationMark :: s.toList.flatMap graphChar ++ [quotationMark])

/-- The name is written without quotation marks: it begins with no digit and holds, underscores
aside, at least one character and nothing but letters and numerals. -/
def isBareId (cs : List Char) : Bool :=
  let letters := cs.filter (· != '_')
  !(cs.head?.map isDigit).getD false && !letters.isEmpty && letters.all isLetterOrNumeral

/-- The name of a node or of a graph, as it is written. -/
def graphId (s : String) : Except Fault String :=
  if s.isEmpty then .error .emptyText
  else if isBareId s.toList then .ok s
  else .ok s!"\"{s}\""

/-! ## The parts of a graph -/

/-- A node. -/
structure GraphNode where
  id : String
  label : String
  highlighted : Bool
  deriving DecidableEq, Repr

/-- An edge; a dashed one has no conversion without arguments. -/
structure GraphEdge where
  source : String
  target : String
  dashed : Bool
  label : Option String
  deriving DecidableEq, Repr

/-- A graph. -/
structure Graph where
  id : String
  nodes : List GraphNode
  edges : List GraphEdge
  deriving DecidableEq, Repr

/-- The line of a node. -/
def GraphNode.line (n : GraphNode) : String :=
  let color := if n.highlighted then ", fillcolor=lightgreen" else ""
  s!"  {n.id} [label={graphString n.label}{color}];"

/-- The attributes of an edge. -/
def GraphEdge.attributes (e : GraphEdge) : List String :=
  (if e.dashed then ["style=dashed"] else [])
    ++ (e.label.map fun l => s!"label={graphString l}").toList

/-- The line of an edge. -/
def GraphEdge.line (e : GraphEdge) : String :=
  let list := ", ".intercalate e.attributes
  let attributes := if e.attributes.isEmpty then "" else s!" [{list}]"
  s!"  {e.source} -> {e.target}{attributes};"

/-- The lines of a graph. -/
def Graph.lines (g : Graph) : List String :=
  [s!"digraph {g.id} \x7b",
    "  rankdir=LR;",
    "  node [shape=box, style=filled, fillcolor=lightblue];"]
  ++ g.nodes.map GraphNode.line ++ g.edges.map GraphEdge.line ++ ["\x7d"]

/-- **The text of a graph.** -/
def Graph.text (g : Graph) : String := "\n".intercalate g.lines

/-! ## From a family to its graph -/

variable {τ φ : Type} [BEq τ] [Slot τ] [Mark φ]

/-- The name in a slot, as it is written. A list counts as quoted when its first item is a number in
digits; any other slot without text has no first character that could be looked at. -/
def slotId (x : τ) : Except Fault String :=
  match (Slot.toValue x).bare with
  | .text s => graphId s
  | .list [] => .error .emptyText
  | .list (.text s :: _) =>
    if s != "" && s.toList.all isDigit then .ok s!"\"{Slot.display x}\"" else .error .noMember
  | .list _ => .error .noMember
  | .map _ => .error (.missingKey "0")
  | _ => .error .wrongShape

/-- The label of a variant. -/
def nodeLabel (mode : GraphMode) (v : VariantOf τ φ) : Except Fault String :=
  match mode with
  | .simple => textOr .noMember v.name
  | .detailed => do
    let name ← textOr .wrongShape v.name
    return "\n".intercalate (name
      :: v.fields.map fun f => s!"{Slot.display f.name}: {Slot.display f.type}")

/-- The node of a variant. -/
def VariantOf.node (mode : GraphMode) (v : VariantOf τ φ) : Except Fault GraphNode := do
  return ⟨← slotId v.name, ← nodeLabel mode v, Mark.isSet v.isCanonical⟩

/-- The greatest length of an edge label. -/
def labelBound : Nat := 40

/-- The label cut to the greatest length, the last three places of which show that it was cut. -/
def shortened (label : String) : String :=
  let cs := label.toList
  if labelBound < cs.length then String.ofList (cs.take (labelBound - 3) ++ ['.', '.', '.'])
  else label

/-- What an edge asks for: the required fields, and the others between brackets. -/
def EdgeOf.label (e : EdgeOf τ) : Except Fault String := do
  if e.missing.isEmpty then return ""
  else
    let required ← e.missingWithoutDefault.mapM (textOr .wrongShape)
    let others := e.missingWithDefault.map fun name => s!"[{Slot.display name}]"
    return shortened (", ".intercalate (required ++ others))

/-- The label that an edge shows. -/
def EdgeOf.shownLabel (mode : GraphMode) (e : EdgeOf τ) : Except Fault (Option String) :=
  match mode with
  | .simple => .ok none
  | .detailed => e.label.map fun l => if l.isEmpty then none else some l

/-- The edge of an ordered pair. -/
def EdgeOf.graphEdge (mode : GraphMode) (e : EdgeOf τ) : Except Fault GraphEdge := do
  let source ← slotId e.source
  let target ← slotId e.target
  let label ← e.shownLabel mode
  return ⟨source, target, !e.isTotal, label⟩

/-- **The graph of a family.** -/
def FamilyOf.graph (F : FamilyOf τ φ) (mode : GraphMode) : Except Fault Graph := do
  let id ← slotId F.canonical
  let nodes ← F.variants.mapM (VariantOf.node mode)
  let edges ← F.edges.mapM (EdgeOf.graphEdge mode)
  return ⟨id, nodes, edges⟩

end RecordFamily
