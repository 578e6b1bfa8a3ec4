import RecordFamily.Value.Basic

/-!
# The order of a set

A set of numbers lists its members in the order of the slots of a table. A number asks for the slot
of its residue, so that equal numbers ask for the same slot; one that is taken gives way to a
neighbour, or else to slots further on. A set with other members keeps the order in which they were
written.

* `Value.residue?`: the residue of a number;
* `slotCount`: the size of the table;
* `freeSlot`: the slot of a number in a table;
* **`Value.inSlotOrder`**: the members of a set in their order.
-/

namespace RecordFamily

/-- The prime to which residues are taken. -/
def residuePrime : Nat := twoTo 61 - 1

/-- The residue of a magnitude with its sign, as a number of 64 bits. -/
def signedResidue (negative : Bool) (r : Nat) : Nat :=
  if !negative || r == 0 then r else if r == 1 then twoTo 64 - 2 else twoTo 64 - r

/-- The residue of a double. Powers of two repeat with a period of 61. -/
def Double.residue? : Double → Option Nat
  | .finite negative m e => some (signedResidue negative (m * twoTo (e % 61) % residuePrime))
  | .infinite negative => some (signedResidue negative 314159)
  | .notANumber => none

/-- The residue of a number. -/
def Value.residue? : Value → Option Nat
  | bool b => some (if b then 1 else 0)
  | int n => some (signedResidue (n < 0) (n.natAbs % residuePrime))
  | float x => x.residue?
  | _ => none

/-- The number of slots for so many members: a power of two above twice their number, and at
least eight. -/
def slotCount (members : Nat) : Nat :=
  if members ≤ 4 then 8 else Nat.pow 2 (Nat.log2 (2 * members) + 1)

/-- The number of neighbours that are tried after a slot, when all of them are in the table. -/
def neighbourCount : Nat := 9

/-- The first slot that is not taken, from the slot `i` of a table of `size` slots on; `mixed` holds
what is left of the residue to be mixed into the next jump. -/
def freeSlot (size : Nat) (taken : List Nat) : (bound : Nat) → (i mixed : Nat) → Nat
  | 0, i, _ => i
  | bound + 1, i, mixed =>
    let tried := if i + neighbourCount < size then List.range' i (neighbourCount + 1) else [i]
    match tried.find? fun j => !taken.contains j with
    | some j => j
    | none => freeSlot size taken bound ((5 * i + 1 + mixed / 32) % size) (mixed / 32)

/-- Adds a member with its slot. -/
def placeMember (size : Nat) (placed : List (Nat × Value)) (residue : Nat) (v : Value) :
    List (Nat × Value) :=
  (freeSlot size (placed.map Prod.fst) (size + 16) (residue % size) residue, v) :: placed

/-- **The members of a set in the order of their slots**, if all of them are numbers. -/
def Value.inSlotOrder (members : List Value) : List Value :=
  match members.mapM fun v => v.residue?.map fun r => (r, v) with
  | none => members
  | some numbers =>
    let size := slotCount members.length
    let placed := numbers.foldl (fun placed n => placeMember size placed n.1 n.2) []
    (placed.mergeSort fun a b => a.1 ≤ b.1).map Prod.snd

end RecordFamily
