import RecordFamily.Value.SetOrder

/-!
# Collections that share parts

A document may use a collection in several places, even inside itself. Its values are therefore kept
in numbered cells first, and a collection holds the numbers of its parts. The value of a cell follows
the parts. A collection in several places has a name there, and one that is met again inside itself is
not followed again.

* `Cell`, `Cell.parts`, `Cell.build`: what a cell holds, its parts, and its value from theirs;
* `Cells`, `Cells.shared`: numbered cells, and the collections in several places;
* `Cells.settled`: the values of the cells from which no collection inside itself is reached;
* `Cells.isCyclic`: the collections inside themselves;
* **`Cells.value`**: the value of a cell.
-/

namespace RecordFamily

/-- What a cell holds: a value of its own, or the numbers of the parts of a collection. -/
inductive Cell where
  | plain (v : Value)
  | list (items : List Nat)
  | pair (first second : Nat)
  | set (items : List Nat)
  | map (entries : List (Nat × Nat))
  deriving Inhabited, Repr

namespace Cell

/-- The numbers of the parts. -/
def parts : Cell → List Nat
  | plain _ => []
  | list items | set items => items
  | pair a b => [a, b]
  | map entries => entries.flatMap fun e => [e.1, e.2]

/-- The cell holds a collection. -/
def isCollection : Cell → Bool
  | plain _ => false
  | _ => true

/-- The value of a cell, given those of its parts. -/
def build (value : Nat → Value) : Cell → Value
  | plain v => v
  | list items => .list (items.map value)
  | pair a b => .pair (value a) (value b)
  | set items => .set (Value.inSlotOrder (items.map value))
  | map entries => .map (entries.map fun e => (value e.1, value e.2))

end Cell

/-- Numbered cells. -/
abbrev Cells := Array Cell

namespace Cells

/-- The cell of a number. -/
def cell (cells : Cells) (n : Nat) : Cell := cells[n]?.getD (.plain .null)

/-- How often a cell is a part of a collection. -/
def uses (cells : Cells) : Array Nat :=
  cells.foldl (fun counts c => c.parts.foldl (fun counts n => counts.modify n (· + 1)) counts)
    (Array.replicate cells.size 0)

/-- The collections in several places. -/
def shared (cells : Cells) : Array Bool :=
  cells.uses.mapIdx fun n count => 1 < count && (cells.cell n).isCollection

/-- The value with the name of its cell, if the cell is one of those that are named. -/
def name (named : Array Bool) (n : Nat) (v : Value) : Value :=
  if named.getD n false then .named n v else v

/-! ## Cells without cycles -/

/-- The values of cells, as far as they are known. -/
abbrev Values := Array (Option Value)

/-- The value of a number, if it is known. -/
def Values.get? (values : Values) (n : Nat) : Option Value := (values[n]?).join

/-- Adds the value of a cell whose parts have values. -/
def settle (cells : Cells) (shared : Array Bool) (values : Values) (n : Nat) : Values :=
  let c := cells.cell n
  if (values.get? n).isNone && c.parts.all fun m => (values.get? m).isSome then
    let v := name shared n (c.build fun m => (values.get? m).getD .null)
    values.setIfInBounds n (some v)
  else values

/-- Adds the values of cells below a number, from the last one on. -/
def settleBelow (cells : Cells) (shared : Array Bool) : Nat → Values → Values
  | 0, values => values
  | n + 1, values => settleBelow cells shared n (cells.settle shared values n)

/-- The number of cells whose values are known. -/
def Values.count (values : Values) : Nat := values.foldl (fun n v => if v.isSome then n + 1 else n) 0

/-- Adds values until there is none to be added. -/
def settleAll (cells : Cells) (shared : Array Bool) : (bound : Nat) → Values → Values
  | 0, values => values
  | bound + 1, values =>
    let after := cells.settleBelow shared cells.size values
    if after.count == values.count then after else settleAll cells shared bound after

/-- The values of the cells from which no collection inside itself is reached. -/
def settled (cells : Cells) (shared : Array Bool) : Values :=
  cells.settleAll shared (cells.size + 1) (Array.replicate cells.size none)

/-! ## Cells with cycles -/

/-- The parts of a cell that have no values. -/
def openParts (cells : Cells) (values : Values) (n : Nat) : List Nat :=
  (cells.cell n).parts.filter fun m => (values.get? m).isNone

/-- The cells without values that are reached from those in `ahead`, added to those in `seen`. -/
def reached (cells : Cells) (values : Values) : (bound : Nat) → (seen ahead : List Nat) → List Nat
  | 0, seen, _ => seen
  | _, seen, [] => seen
  | bound + 1, seen, n :: ahead =>
    if seen.contains n then reached cells values bound seen ahead
    else reached cells values bound (n :: seen) (cells.openParts values n ++ ahead)

/-- The number of parts of all cells. -/
def partCount (cells : Cells) : Nat := cells.foldl (fun n c => n + c.parts.length) 0

/-- The collection is reached from its parts. -/
def isCyclic (cells : Cells) (values : Values) (n : Nat) : Bool :=
  (cells.reached values (2 * cells.partCount + 1) [] (cells.openParts values n)).contains n

/-- The value of a cell inside the collections `around`. -/
def valueIn (cells : Cells) (values : Values) (cyclic named : Array Bool) :
    (bound : Nat) → (around : List Nat) → Nat → Value
  | 0, _, n => .again n
  | bound + 1, around, n =>
    match values.get? n with
    | some v => v
    | none =>
      if around.contains n then .again n
      else
        let around := if cyclic.getD n false then n :: around else around
        name named n ((cells.cell n).build (valueIn cells values cyclic named bound around))

/-- **The value of a cell.** -/
def value (cells : Cells) (n : Nat) : Value :=
  let shared := cells.shared
  let values := cells.settled shared
  match values.get? n with
  | some v => v
  | none =>
    let cyclic := (Array.range cells.size).map fun m =>
      (values.get? m).isNone && cells.isCyclic values m
    let named := cyclic.zipWith (· || ·) shared
    cells.valueIn values cyclic named (cells.size + 1) [] n

end Cells

end RecordFamily
