import RecordFamily.Value.Cell
import RecordFamily.Yaml.Merge
import RecordFamily.Yaml.Numbers

/-!
# Values of YAML documents

A node stands for the value that its tag tells. The values of a document are read into cells from the
outside in: a scalar is read when it is met, and the parts of a collection after those of all
collections that were met before it. So of several faults the one of an outer collection is reported,
and of those side by side the first.

* `Nodes.scalarText`, `Node.scalarValue`: scalars;
* `Reading`, `Read`: the cells that were read, and the collections whose parts are still to be read;
* `Read.meet`, `Read.fill`: a node that is met, and the parts of a collection;
* **`Yaml.read`**: the value of a text.
-/

namespace RecordFamily

namespace Yaml

/-! ## Scalars -/

/-- The text of a scalar, or of the scalar at the key `=` of a mapping, where mappings stand in each
other less deep than the bound. -/
def Nodes.scalarTextWithin (nodes : Nodes) : (bound : Nat) → Nat → Except Fault String
  | 0, _ => .error .tooDeep
  | bound + 1, n =>
    match (nodes.node n).content with
    | .scalar text => .ok text
    | .mapping es =>
      match es.find? fun e => (nodes.node e.1).tag == .value with
      | some (_, v) => scalarTextWithin nodes bound v
      | none => .error .invalidYaml
    | .sequence _ => .error .invalidYaml

/-- The text of a node that has to be a scalar. -/
def Nodes.scalarText (nodes : Nodes) (n : Nat) : Except Fault String :=
  nodes.scalarTextWithin (nodes.size + 1) n

/-- The value of a node of a scalar's tag, given its text. A moment is read off the node itself, so that
a mapping has none. -/
def Node.scalarValue (n : Node) (text : String) : Except Fault Value :=
  match n.tag with
  | .null => .ok .null
  | .bool => Scalar.bool text
  | .int => Scalar.int text
  | .float => Scalar.float text
  | .binary => Scalar.binary text
  | .str => .ok (.text text)
  | .timestamp =>
    match n.content with
    | .scalar _ => Scalar.timestamp text
    | _ => .error .wrongShape
  | _ => .error .invalidYaml

/-! ## Cells -/

/-- The cells that were read so far. -/
structure Reading where
  nodes : Nodes
  /-- The cell of each node that was met; the cells of pairs come after those of the nodes. -/
  cells : Array (Option Cell)
  /-- The collections in the order in which they were met. -/
  met : Array Nat := #[]

/-- A reader of nodes. -/
abbrev Read := StateT Reading (Except Fault)

namespace Read

/-- The text is refused. -/
def refuse {α : Type} : Read α := throw .invalidYaml

/-- Sets the cell of a node. -/
def setCell (n : Nat) (c : Cell) : Read Unit :=
  modify fun r => { r with cells := r.cells.setIfInBounds n (some c) }

/-- A collection is met; its parts are read later. -/
def await (n : Nat) (c : Cell) : Read Unit := do
  setCell n c
  modify fun r => { r with met := r.met.push n }

/-- A node is met. -/
def meet (n : Nat) : Read Unit := do
  let r ← get
  if ((r.cells[n]?).join).isSome then return ()
  else
    let node := r.nodes.node n
    match node.tag with
    | .seq | .ordered | .pairs => await n (.list [])
    | .set => await n (.set [])
    | .map => await n (.map [])
    | .merge | .value | .unknown _ => refuse
    | _ => do
      let text ← r.nodes.scalarText n
      setCell n (.plain (← node.scalarValue text))

/-- The value of the cell of a node, if it is no collection. -/
def plain? (r : Reading) (n : Nat) : Option Value :=
  match (r.cells[n]?).join with
  | some (.plain v) => some v
  | _ => none

/-- The two keys are the same. What is no number is the same only as itself: its name stands for one
value wherever it is written. -/
def sameKey (r : Reading) (a b : Nat) : Bool :=
  a == b ||
    match plain? r a, plain? r b with
    | some (.float .notANumber), some (.float .notANumber) =>
      [a, b].all fun n => ((r.nodes.scalarText n).toOption.map Scalar.isNotANumber).getD false
    | some v, some w => v.same w
    | _, _ => false

/-- Replaces the value of the first key that is the same, or adds the entry in front of the entries,
which stand in reverse. -/
def insert (r : Reading) (entry : Nat × Nat) (done : List (Nat × Nat)) : List (Nat × Nat) :=
  if done.any fun e => sameKey r entry.1 e.1 then
    done.map fun e => if sameKey r entry.1 e.1 then (e.1, entry.2) else e
  else entry :: done

/-- The entries of a mapping, after those in `done`, which stand in reverse. A key is no collection. -/
def entriesFrom (done : List (Nat × Nat)) : List (Nat × Nat) → Read (List (Nat × Nat))
  | [] => return done.reverse
  | (k, v) :: es => do
    meet k
    if (plain? (← get) k).isNone then refuse
    else
      meet v
      entriesFrom (insert (← get) (k, v) done) es

/-- The entries of a mapping, with the merged ones. -/
def entries (n : Nat) : Read (List (Nat × Nat)) := do
  let nodes ← modifyGet fun r => (r.nodes, { r with nodes := #[] })
  let nodes ← nodes.merge n
  let es := nodes.entries n
  modify fun r => { r with nodes := nodes }
  entriesFrom [] es

/-- The cell of the pair that a mapping with one entry stands for. -/
def pair (n : Nat) : Read Nat := do
  match (← get).nodes.entries n with
  | [(k, v)] => do
    meet k
    meet v
    let number := (← get).cells.size
    modify fun r => { r with cells := r.cells.push (some (.pair k v)) }
    return number
  | _ => refuse

/-- Reads the parts of a collection. -/
def fill (n : Nat) : Read Unit := do
  let node := (← get).nodes.node n
  match node.tag, node.content with
  | .seq, .sequence items => do
    items.forM meet
    setCell n (.list items)
  | .ordered, .sequence items | .pairs, .sequence items => do
    setCell n (.list (← items.mapM pair))
  | .set, .mapping _ => do
    setCell n (.set ((← entries n).map Prod.fst))
  | .map, .mapping _ => do
    setCell n (.map (← entries n))
  | _, _ => refuse

/-- Reads the parts of the collections from a place in their order on. -/
def fillFrom : (bound : Nat) → (next : Nat) → Read Unit
  | 0, _ => return ()
  | bound + 1, next => do
    match (← get).met[next]? with
    | none => return ()
    | some n => do
      fill n
      fillFrom bound (next + 1)

/-- Reads a node and all that it holds. -/
def all (n : Nat) : Read Unit := do
  meet n
  fillFrom ((← get).nodes.size + 1) 0

end Read

/-- The value of a document. -/
def Document.value (d : Document) : Except Fault Value := do
  let start : Reading := ⟨d.nodes, Array.replicate d.nodes.size none, #[]⟩
  let (_, r) ← (Read.all d.root).run start
  let cells : Cells := r.cells.map fun c => c.getD (.plain .null)
  return cells.value d.root

/-- **The value of a text**, which is null when the text holds no document. -/
def read (s : String) : Except Fault Value := do
  let (tokens, fault) := Token.scan s
  match ← Document.ofTokens tokens fault with
  | none => return .null
  | some d => d.value

end Yaml

end RecordFamily
