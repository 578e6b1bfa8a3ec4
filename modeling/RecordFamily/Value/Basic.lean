import RecordFamily.Value.Calendar

/-!
# Document values

What a schema document, or the dictionary form of a family, may hold. A mapping keeps the order in
which its keys were first written. A collection that may be met more than once, perhaps inside itself,
has a **name**: inside it `again` stands for it.

* `Value`: the values;
* `Value.bare`, `Value.opened`: a value without its name, and a value whose parts stand on their
  own;
* `Value.labelled`: a value with names for all its collections;
* `Value.truthy`: the values that count as given, as against empty ones;
* `Value.isKeyShaped`: the values that may be the key of a mapping;
* `Value.find?`: the value at a text key of a mapping;
* `Value.insert`, `Value.ofPairs`: mappings in which a repeated key keeps its place and takes its
  last value;
* `Value.same`: equality of values, where whole numbers, doubles and truth values are compared as
  numbers and mappings without regard to order.
-/

namespace RecordFamily

/-- A value of a document. -/
inductive Value where
  | null
  | bool (b : Bool)
  | int (n : Int)
  | float (x : Double)
  | text (s : String)
  | bytes (bs : List UInt8)
  | date (d : Date)
  | moment (m : Moment)
  | list (items : List Value)
  | pair (first second : Value)
  | set (items : List Value)
  | map (entries : List (Value × Value))
  /-- A collection with a name. -/
  | named (name : Nat) (body : Value)
  /-- The collection of this name around it. -/
  | again (name : Nat)
  deriving Inhabited, Repr

namespace Value

/-! ## Named collections -/

/-- The value without its name. -/
def bare : Value → Value
  | named _ v => v.bare
  | v => v

mutual

/-- The value where `v` stands in the places of the collection `name`. -/
def fill (name : Nat) (v : Value) : Value → Value
  | again n => if n == name then v else again n
  | named n body => if n == name then named n body else named n (fill name v body)
  | list xs => list (fillItems name v xs)
  | pair a b => pair (fill name v a) (fill name v b)
  | map es => map (fillEntries name v es)
  | w => w

/-- The values of a list, filled. -/
def fillItems (name : Nat) (v : Value) : List Value → List Value
  | [] => []
  | x :: xs => fill name v x :: fillItems name v xs

/-- The entries of a mapping, filled. -/
def fillEntries (name : Nat) (v : Value) : List (Value × Value) → List (Value × Value)
  | [] => []
  | (k, x) :: es => (k, fill name v x) :: fillEntries name v es

end

/-- The value without its name, where the parts that refer to it hold it. -/
def opened : Value → Value
  | named n body => fill n (named n body) body
  | v => v

mutual

/-- The value whose collections have names from a number on, and the first number that is left. -/
def label (next : Nat) : Value → Value × Nat
  | list xs =>
    let (xs, after) := labelItems (next + 1) xs
    (named next (list xs), after)
  | set xs =>
    let (xs, after) := labelItems (next + 1) xs
    (named next (set xs), after)
  | map es =>
    let (es, after) := labelEntries (next + 1) es
    (named next (map es), after)
  | v => (v, next)

/-- The values of a list, labelled one after the other. -/
def labelItems (next : Nat) : List Value → List Value × Nat
  | [] => ([], next)
  | x :: xs =>
    let (x, after) := label next x
    let (xs, after) := labelItems after xs
    (x :: xs, after)

/-- The entries of a mapping, with their values labelled one after the other. -/
def labelEntries (next : Nat) : List (Value × Value) → List (Value × Value) × Nat
  | [] => ([], next)
  | (k, v) :: es =>
    let (v, after) := label next v
    let (es, after) := labelEntries after es
    ((k, v) :: es, after)

end

/-- The value in which every collection has a name of its own, so that the places that come to hold
one collection show. -/
def labelled (v : Value) : Value := (v.label 0).1

/-- The greatest number of digits in which a whole number is read or written. -/
def digitBound : Nat := 4300

/-! ## Tests -/

/-- The value counts as given: it is not null, false, zero or empty. -/
def truthy : Value → Bool
  | null => false
  | bool b => b
  | int n => n != 0
  | float x => !x.isZero
  | text s => s != ""
  | bytes bs => !bs.isEmpty
  | list xs => !xs.isEmpty
  | set xs => !xs.isEmpty
  | map es => !es.isEmpty
  | named _ v => v.truthy
  | date _ | moment _ | pair _ _ | again _ => true

/-- The value may be the key of a mapping. -/
def isKeyShaped : Value → Bool
  | list _ | set _ | map _ | again _ => false
  | named _ v => v.isKeyShaped
  | pair a b => a.isKeyShaped && b.isKeyShaped
  | _ => true

/-- The number that a value is compared as, if it is a whole one. -/
def number? : Value → Option Int
  | bool b => some (if b then 1 else 0)
  | int n => some n
  | float x => x.toInt?
  | _ => none

mutual

/-- The two values are equal. What is no number is equal to itself here. -/
def same : Value → Value → Bool
  | null, null => true
  | text a, text b => a == b
  | bytes a, bytes b => a == b
  | date a, date b => a == b
  | moment a, moment b => a.sameInstant b
  | named _ v, w => same v w
  | v, named _ w => same v w
  | list xs, list ys => sameItems xs ys
  | pair a b, pair c d => same a c && same b d
  | set xs, set ys => xs.length == ys.length && sameItems xs ys
  | map es, map fs => es.length == fs.length && allIn es fs
  | float x, float y => match x.toInt?, y.toInt? with
    | some m, some n => m == n
    | none, none => x == y
    | _, _ => false
  | again a, again b => a == b
  | a, b => match number? a, number? b with
    | some m, some n => m == n
    | _, _ => false
termination_by a b => sizeOf a + sizeOf b

/-- The two lists hold equal values. -/
def sameItems : List Value → List Value → Bool
  | [], [] => true
  | x :: xs, y :: ys => same x y && sameItems xs ys
  | _, _ => false
termination_by xs ys => sizeOf xs + sizeOf ys

/-- Every entry of the first list is equal to one of the second. -/
def allIn : List (Value × Value) → List (Value × Value) → Bool
  | [], _ => true
  | (k, v) :: es, fs => someIn k v fs && allIn es fs
termination_by es fs => sizeOf es + sizeOf fs

/-- Some entry of the list has this key and this value. -/
def someIn (k v : Value) : List (Value × Value) → Bool
  | [] => false
  | (k', v') :: fs => (same k k' && same v v') || someIn k v fs
termination_by fs => sizeOf k + sizeOf v + sizeOf fs

end

/-- Replaces the value of the first equal key, or adds the entry at the end. -/
def insert (key value : Value) : List (Value × Value) → List (Value × Value)
  | [] => [(key, value)]
  | (k, v) :: es => if same k key then (k, value) :: es else (k, v) :: insert key value es

/-- The mapping that the entries leave when they are written one after the other. -/
def ofPairs (entries : List (Value × Value)) : Value :=
  map (entries.foldl (fun es e => insert e.1 e.2 es) [])

/-- The values of a list without those that are equal to an earlier one. -/
def distinct (items : List Value) : List Value :=
  (items.foldl (fun es v => insert v null es) []).map Prod.fst

/-- The entry's key is the text `key`. -/
def isKey (key : String) (entry : Value × Value) : Bool :=
  match entry.1 with
  | text s => s == key
  | _ => false

/-- The value of a text key among the entries of a mapping. -/
def find? (entries : List (Value × Value)) (key : String) : Option Value :=
  (entries.find? (isKey key)).map Prod.snd

/-- The mapping with these text keys. -/
def record (entries : List (String × Value)) : Value :=
  map (entries.map fun e => (text e.1, e.2))

/-- The list of these texts. -/
def texts (items : List String) : Value := list (items.map text)

end Value

end RecordFamily
